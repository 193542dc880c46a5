import CourierPlatform.Model.OrderService

/-! A `createOrder` call as its own order sees it: the call, the row and the events of the
order, and nothing else. With the outcomes of the courier given, what the call comes to is
a function of these three. -/
namespace CourierPlatform
open OrderService

abbrev Outcomes := NormalizedCreateOrderRequest → Except Thrown NormalizedCreateOrderResponse

def CreateOrder.settles (outcomes : Outcomes) : CreateOrder → Answer
  | createShipment orderData _ _ =>
    match outcomes orderData with
    | .ok reply => .booked reply
    | .error error => .refused error
  | _ => .ok

def Answer.booking? : Answer → Option (Except Thrown NormalizedCreateOrderResponse)
  | booked reply => some (.ok reply)
  | refused error => some (.error error)
  | _ => none

def CreateOrder.rank : CreateOrder → Nat
  | findOne _ => 5
  | updateExisting _ _ => 4
  | createRow _ => 4
  | createShipment _ _ _ => 3
  | updateFailed _ _ _ => 2
  | saveUpdate _ _ _ => 2
  | saveEvent _ _ _ => 1
  | resolved _ => 0
  | rejected _ => 0

def Order.undated (order : Order) : Order := { order with updatedAt := 0 }

def TrackingEvent.undated (event : TrackingEvent) : TrackingEvent :=
  { event with eventTimestamp := 0 }

def CreateOrder.undated : CreateOrder → CreateOrder
  | updateExisting orderData existingOrder => .updateExisting orderData existingOrder.undated
  | createShipment orderData persistedOrder adapter =>
    .createShipment orderData persistedOrder.undated adapter
  | updateFailed orderData persistedOrder error =>
    .updateFailed orderData persistedOrder.undated error
  | saveUpdate orderData courierResponse persistedOrder =>
    .saveUpdate orderData courierResponse persistedOrder.undated
  | saveEvent orderData courierResponse persistedOrder =>
    .saveEvent orderData courierResponse persistedOrder.undated
  | call => call

structure SingleOrder where
  call : CreateOrder
  row : Option Order
  events : List TrackingEvent

namespace SingleOrder

def undated (o : SingleOrder) : SingleOrder :=
  ⟨o.call.undated, o.row.map Order.undated, o.events.map TrackingEvent.undated⟩

def updateRow (env : Env) (now : Int) (loaded : Order) (patch : OrderPatch) (row : Option Order) :
    Option Order :=
  row.map fun stored => stored.write env.updateMode now loaded patch

/-- After the write that records the booking: on SQLite the event is still ahead. -/
def saved (env : Env) (now : Int) (orderData : NormalizedCreateOrderRequest)
    (courierResponse : NormalizedCreateOrderResponse) (persistedOrder : Order) (o : SingleOrder) :
    SingleOrder :=
  let row := updateRow env now persistedOrder (createdPatch courierResponse) o.row
  match env.dialect with
  | .sqlite => { o with call := .saveEvent orderData courierResponse persistedOrder, row }
  | .postgres => {
      call := .resolved courierResponse
      row
      events := o.events ++ [initialTracking env orderData courierResponse persistedOrder now] }

def step (env : Env) (now : Int) (o : SingleOrder) (a : Answer) : Option SingleOrder :=
  match o.call, a with
  | .findOne orderData, .ok => some { o with call := afterFindOne orderData o.row }
  | .updateExisting orderData existingOrder, .ok =>
    some { o with
      call := dispatchWithFailureAudit env orderData
        (existingOrder.assign now (pendingPatch orderData))
      row := updateRow env now existingOrder (pendingPatch orderData) o.row }
  | .createRow orderData, .ok =>
    match o.row with
    | none => some { o with
        call := dispatchWithFailureAudit env orderData (pendingOrder orderData now)
        row := some (pendingOrder orderData now) }
    | some _ => some { o with call := .rejected uniqueConstraintError }
  | .createShipment orderData persistedOrder _, .booked reply =>
    some { o with call := .saveUpdate orderData reply persistedOrder }
  | .createShipment orderData persistedOrder _, .refused error =>
    some { o with call := .updateFailed orderData persistedOrder error }
  | .updateFailed _ persistedOrder error, .ok =>
    some { o with
      call := .rejected error
      row := updateRow env now persistedOrder (failedPatch error) o.row }
  | .updateFailed _ _ error, .dbError _ => some { o with call := .rejected error }
  | .saveUpdate orderData courierResponse persistedOrder, .ok =>
    some (saved env now orderData courierResponse persistedOrder o)
  | .saveEvent orderData courierResponse persistedOrder, .ok =>
    some { o with
      call := .resolved courierResponse
      events := o.events ++ [initialTracking env orderData courierResponse persistedOrder now] }
  | .findOne .., .dbError error => some { o with call := .rejected error }
  | .updateExisting .., .dbError error => some { o with call := .rejected error }
  | .createRow .., .dbError error => some { o with call := .rejected error }
  | .saveUpdate .., .dbError error => some { o with call := .rejected error }
  | .saveEvent .., .dbError error => some { o with call := .rejected error }
  | _, _ => none

def run (env : Env) (outcomes : Outcomes) : Nat → SingleOrder → SingleOrder
  | 0, o => o
  | fuel + 1, o =>
    match o.step env 0 (o.call.settles outcomes) with
    | some next => run env outcomes fuel next
    | none => o

def complete (env : Env) (outcomes : Outcomes) (o : SingleOrder) : SingleOrder :=
  run env outcomes o.call.rank o.undated

end SingleOrder

def prePersisted (orderData : NormalizedCreateOrderRequest) : Option Order → Order
  | some row => row.assign 0 (pendingPatch orderData)
  | none => pendingOrder orderData 0

namespace SingleOrder

def dispatched (env : Env) (outcomes : Outcomes) (orderData : NormalizedCreateOrderRequest)
    (persisted : Order) (events : List TrackingEvent) : SingleOrder :=
  match env.registry.get env.js orderData.courierPartner with
  | .error unknown => ⟨.rejected unknown, some persisted, events⟩
  | .ok _ =>
    match outcomes orderData with
    | .error error => ⟨.rejected error, some (persisted.assign 0 (failedPatch error)), events⟩
    | .ok reply => {
        call := .resolved reply
        row := some (persisted.assign 0 (createdPatch reply))
        events := events ++ [initialTracking env orderData reply persisted 0] }

def outcome (env : Env) (outcomes : Outcomes) (orderData : NormalizedCreateOrderRequest)
    (row : Option Order) (events : List TrackingEvent) : SingleOrder :=
  match checkIdempotentResponse row with
  | some idempotentResponse => ⟨.resolved idempotentResponse, row, events⟩
  | none => dispatched env outcomes orderData (prePersisted orderData row) events

end SingleOrder

section
variable {mode : UpdateMode} {now : Int} {loaded row : Order} {patch : OrderPatch}

@[simp] theorem Order.undated_orderId : row.undated.orderId = row.orderId := rfl

@[simp] theorem Order.undated_status : row.undated.status = row.status := rfl

theorem UpdateMode.column_own {α : Type} [DecidableEq α] (value : Option α) (loaded : α) :
    mode.column loaded value loaded = value.getD loaded := by
  cases value with
  | none => rfl
  | some value =>
    by_cases same : mode = .changed ∧ value = loaded
    · rw [column, if_pos same, same.2]
      rfl
    · rw [column, if_neg same]
      rfl

/-- An update of an instance that agrees with its row assigns the fields that it names. -/
theorem Order.write_own (undated : row.updatedAt = 0) :
    row.write mode 0 row patch = row.assign 0 patch := by
  unfold assign write
  simp only [UpdateMode.column_own, undated, ite_self]

theorem Order.write_undated : (row.write mode now loaded patch).undated =
    row.undated.write mode 0 loaded.undated patch := by
  unfold write undated
  congr 1
  exact (ite_self 0).symm

theorem Order.assign_undated :
    (loaded.assign now patch).undated = loaded.undated.assign 0 patch :=
  write_undated

theorem SingleOrder.updateRow_undated (env : Env) (row : Option Order) :
    (updateRow env now loaded patch row).map Order.undated =
      updateRow env 0 loaded.undated patch (row.map Order.undated) := by
  cases row with
  | none => rfl
  | some row => exact congrArg some Order.write_undated

end

namespace CreateOrder

variable {call : CreateOrder} {outcomes : Outcomes}

@[simp] theorem settled_undated : call.undated.settled = call.settled := by cases call <;> rfl

@[simp] theorem rank_undated : call.undated.rank = call.rank := by cases call <;> rfl

@[simp] theorem settles_undated : call.undated.settles outcomes = call.settles outcomes := by
  cases call <;> rfl

theorem rank_of_settled (h : call.settled = true) : call.rank = 0 := by
  cases call <;> first | rfl | exact Bool.noConfusion h

end CreateOrder

namespace OrderService

variable {env : Env} {orderData : NormalizedCreateOrderRequest} {persisted : Order}

theorem dispatch_undated : (dispatchWithFailureAudit env orderData persisted).undated =
    dispatchWithFailureAudit env orderData persisted.undated := by
  unfold dispatchWithFailureAudit
  split <;> rfl

theorem rank_dispatch : (dispatchWithFailureAudit env orderData persisted).rank ≤ 3 := by
  unfold dispatchWithFailureAudit
  split <;> simp [CreateOrder.rank]

theorem afterFindOne_undated (row : Option Order) :
    (afterFindOne orderData row).undated = afterFindOne orderData (row.map Order.undated) := by
  cases row with
  | none => rfl
  | some row =>
    by_cases closed : row.status ≠ .failed ∧ row.status ≠ .pendingDispatch
    · simp [afterFindOne, checkIdempotentResponse, closed, CreateOrder.undated, Order.undated]
    · simp [afterFindOne, checkIdempotentResponse, closed, CreateOrder.undated, Order.undated,
        prePersistPendingOrder]

theorem rank_afterFindOne (row : Option Order) : (afterFindOne orderData row).rank ≤ 4 := by
  unfold afterFindOne prePersistPendingOrder
  split
  · exact Nat.zero_le 4
  · split <;> exact Nat.le_refl 4

end OrderService

namespace SingleOrder

variable {env : Env} {outcomes : Outcomes} {now : Int} {o next : SingleOrder} {a : Answer}

theorem saved_undated {orderData : NormalizedCreateOrderRequest}
    {reply : NormalizedCreateOrderResponse} {persisted : Order} :
    (saved env now orderData reply persisted o).undated =
      saved env 0 orderData reply persisted.undated o.undated := by
  unfold saved
  cases env.dialect with
  | sqlite => simp only [undated, updateRow_undated]; rfl
  | postgres => simp only [undated, updateRow_undated, List.map_append]; rfl

theorem rank_saved {orderData : NormalizedCreateOrderRequest}
    {reply : NormalizedCreateOrderResponse} {persisted : Order} :
    (saved env now orderData reply persisted o).call.rank ≤ 1 := by
  unfold saved
  cases env.dialect with
  | sqlite => exact Nat.le_refl 1
  | postgres => exact Nat.zero_le 1

/-- Time stamps decide nothing. -/
theorem step_undated (h : o.step env now a = some next) :
    o.undated.step env 0 a = some next.undated := by
  obtain ⟨call, row, events⟩ := o
  cases call with
  | findOne orderData =>
    cases a with
    | ok =>
      cases h
      simp only [undated, afterFindOne_undated]
      rfl
    | dbError error => cases h; rfl
    | _ => cases h
  | updateExisting orderData existing =>
    cases a with
    | ok =>
      cases h
      simp only [undated, dispatch_undated, Order.assign_undated, updateRow_undated]
      rfl
    | dbError error => cases h; rfl
    | _ => cases h
  | createRow orderData =>
    cases a with
    | ok =>
      cases row with
      | none =>
        cases h
        simp only [undated, dispatch_undated]
        rfl
      | some row => cases h; rfl
    | dbError error => cases h; rfl
    | _ => cases h
  | createShipment orderData persisted adapter => cases a <;> cases h <;> rfl
  | updateFailed orderData persisted error =>
    cases a with
    | ok =>
      cases h
      simp only [undated, updateRow_undated]
      rfl
    | dbError error => cases h; rfl
    | _ => cases h
  | saveUpdate orderData reply persisted =>
    cases a with
    | ok => cases h; exact congrArg some saved_undated.symm
    | dbError error => cases h; rfl
    | _ => cases h
  | saveEvent orderData reply persisted =>
    cases a with
    | ok =>
      cases h
      simp only [undated, List.map_append]
      rfl
    | dbError error => cases h; rfl
    | _ => cases h
  | resolved response => cases a <;> cases h
  | rejected error => cases a <;> cases h

theorem rank_step (h : o.step env now a = some next) : next.call.rank < o.call.rank := by
  obtain ⟨call, row, events⟩ := o
  cases call with
  | findOne orderData =>
    cases a with
    | ok => cases h; exact Nat.lt_succ_of_le (rank_afterFindOne row)
    | dbError error => cases h; exact Nat.zero_lt_succ _
    | _ => cases h
  | updateExisting orderData existing =>
    cases a with
    | ok => cases h; exact Nat.lt_succ_of_le rank_dispatch
    | dbError error => cases h; exact Nat.zero_lt_succ _
    | _ => cases h
  | createRow orderData =>
    cases a with
    | ok =>
      cases row with
      | none => cases h; exact Nat.lt_succ_of_le rank_dispatch
      | some row => cases h; exact Nat.zero_lt_succ _
    | dbError error => cases h; exact Nat.zero_lt_succ _
    | _ => cases h
  | createShipment orderData persisted adapter =>
    cases a <;> cases h <;> exact Nat.lt_succ_self 2
  | updateFailed orderData persisted error => cases a <;> cases h <;> exact Nat.zero_lt_succ _
  | saveUpdate orderData reply persisted =>
    cases a with
    | ok => cases h; exact Nat.lt_succ_of_le rank_saved
    | dbError error => cases h; exact Nat.zero_lt_succ _
    | _ => cases h
  | saveEvent orderData reply persisted => cases a <;> cases h <;> exact Nat.zero_lt_succ _
  | resolved response => cases a <;> cases h
  | rejected error => cases a <;> cases h

theorem run_of_rank_le {fuel more : Nat} (enough : o.call.rank ≤ fuel) (le : fuel ≤ more) :
    run env outcomes more o = run env outcomes fuel o := by
  induction fuel generalizing o more with
  | zero =>
    have settled : ∀ a, o.step env 0 a = none := by
      intro a
      by_contra moves
      obtain ⟨next, stepped⟩ := Option.ne_none_iff_exists'.mp moves
      exact absurd (rank_step stepped) (by omega)
    cases more with
    | zero => rfl
    | succ more => simp only [run, settled]
  | succ fuel ih =>
    obtain ⟨more, rfl⟩ := Nat.exists_eq_add_of_le' (Nat.le_trans (Nat.le_add_left 1 fuel) le)
    unfold run
    cases stepped : o.step env 0 (o.call.settles outcomes) with
    | none => rfl
    | some next => exact ih (by have := rank_step stepped; omega) (by omega)

theorem complete_eq_run (fuel : Nat) (enough : o.call.rank ≤ fuel) :
    complete env outcomes o = run env outcomes fuel o.undated :=
  (run_of_rank_le (le_of_eq CreateOrder.rank_undated) enough).symm

theorem complete_step (h : o.step env now (o.call.settles outcomes) = some next) :
    complete env outcomes next = complete env outcomes o := by
  have undated := step_undated h
  have closer := rank_step h
  obtain ⟨fuel, ahead⟩ := Nat.exists_eq_add_of_lt (Nat.zero_lt_of_lt closer)
  rw [complete_eq_run o.call.rank (Nat.le_refl _), complete_eq_run fuel (by omega), ahead,
    Nat.zero_add, run]
  have same : o.undated.call.settles outcomes = o.call.settles outcomes :=
    CreateOrder.settles_undated
  rw [same, undated]

theorem settles_of_step (h : o.step env now a = some next) (faultless : ∀ error, a ≠ .dbError error)
    (answered : ∀ orderData persisted adapter, o.call = .createShipment orderData persisted adapter →
      ∀ booking, a.booking? = some booking → booking = outcomes orderData) :
    a = o.call.settles outcomes := by
  obtain ⟨call, row, events⟩ := o
  cases call with
  | createShipment orderData persisted adapter =>
    have same := answered orderData persisted adapter rfl
    cases a with
    | booked reply => simp only [CreateOrder.settles, ← same _ rfl]
    | refused error => simp only [CreateOrder.settles, ← same _ rfl]
    | _ => cases h
  | resolved response => cases a <;> cases h
  | rejected error => cases a <;> cases h
  | _ =>
    cases a with
    | ok => rfl
    | dbError error => exact absurd rfl (faultless error)
    | _ => cases h

theorem complete_of_settled (h : o.call.settled = true) :
    complete env outcomes o = o.undated := by
  rw [complete, CreateOrder.rank_of_settled h]
  rfl

section
variable {orderData : NormalizedCreateOrderRequest} {row : Option Order}
  {events : List TrackingEvent}

theorem run_dispatch {persisted : Order} (undated : persisted.updatedAt = 0) :
    run env outcomes 3 ⟨dispatchWithFailureAudit env orderData persisted, some persisted, events⟩ =
      dispatched env outcomes orderData persisted events := by
  unfold dispatchWithFailureAudit dispatched
  cases env.registry.get env.js orderData.courierPartner with
  | error unknown => rfl
  | ok adapter =>
    cases answer : outcomes orderData with
    | error error =>
      simp only [run, step, CreateOrder.settles, answer, updateRow, Option.map_some,
        Order.write_own undated]
    | ok reply =>
      cases dialect : env.dialect with
      | sqlite => simp [run, step, CreateOrder.settles, answer, updateRow, saved, dialect,
          Order.write_own undated]
      | postgres => simp [run, step, CreateOrder.settles, answer, updateRow, saved, dialect,
          Order.write_own undated]

theorem complete_findOne : complete env outcomes ⟨.findOne orderData, row, events⟩ =
    outcome env outcomes orderData (row.map Order.undated) (events.map TrackingEvent.undated) := by
  change run env outcomes 4 ⟨afterFindOne orderData (row.map Order.undated), _, _⟩ = _
  unfold outcome afterFindOne
  cases answered : checkIdempotentResponse (row.map Order.undated) with
  | some response => rfl
  | none =>
    cases row with
    | none => exact run_dispatch rfl
    | some row =>
      have own : row.undated.write env.updateMode 0 row.undated (pendingPatch orderData) =
          row.undated.assign 0 (pendingPatch orderData) := Order.write_own rfl
      change run env outcomes 3 ⟨_, some (row.undated.write env.updateMode 0 row.undated
        (pendingPatch orderData)), _⟩ = _
      rw [own]
      exact run_dispatch rfl

end

end SingleOrder
end CourierPlatform
