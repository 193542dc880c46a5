import CourierPlatform.Library.UniqueTable
import CourierPlatform.Model.Registry

/-! The tables and what Sequelize does to them. `orders` is indexed by
`order_id`, which is unique; the random primary key beside it is in bijection
with it and is left out. -/
namespace CourierPlatform
open Js Library

structure Order where
  orderId : String
  courierPartner : String
  courierOrderId : Option String
  awbNumber : Option String
  status : ShipmentStatus
  retryCount : Nat
  rawRequestPayload : NormalizedCreateOrderRequest
  rawResponsePayload : Option Json
  failureReason : Option String
  senderDetails : AddressInfo
  recipientDetails : AddressInfo
  packageDetails : PackageDetails
  paymentDetails : PaymentDetails
  serviceType : Option String
  updatedAt : Int
deriving DecidableEq

abbrev OrderTable := UniqueTable Order Order.orderId

structure TrackingEvent where
  orderId : String
  awbNumber : String
  status : ShipmentStatus
  activity : String
  location : Option String
  eventTimestamp : Int
  rawPayload : Option Json
deriving DecidableEq

structure BulkBatch where
  batchId : String
  totalOrders : Nat
  successfulOrders : Nat
  failedOrders : Nat
  status : BulkBatchStatus
  results : List BulkOrderItemResult
deriving DecidableEq

/-- What `instance.update` writes of the fields it names: all of them, or those
whose value differs from the copy the instance was loaded with. -/
inductive UpdateMode where
  | named | changed
deriving DecidableEq

/-- The argument of `instance.update`; a field that is `none` is not named. -/
structure OrderPatch where
  courierOrderId : Option (Option String) := none
  awbNumber : Option (Option String) := none
  status : Option ShipmentStatus := none
  retryCount : Option Nat := none
  rawRequestPayload : Option NormalizedCreateOrderRequest := none
  rawResponsePayload : Option (Option Json) := none
  failureReason : Option (Option String) := none

def UpdateMode.column {α : Type} [DecidableEq α] (mode : UpdateMode) (loaded : α) :
    Option α → α → α
  | none, current => current
  | some value, current => if mode = .changed ∧ value = loaded then current else value

def UpdateMode.skips (mode : UpdateMode) (loaded : Order) (patch : OrderPatch) : Bool :=
  let same {α : Type} [DecidableEq α] (value : Option α) (old : α) : Bool := value.all (· = old)
  mode = .changed && same patch.courierOrderId loaded.courierOrderId &&
    same patch.awbNumber loaded.awbNumber && same patch.status loaded.status &&
    same patch.retryCount loaded.retryCount &&
    same patch.rawRequestPayload loaded.rawRequestPayload &&
    same patch.rawResponsePayload loaded.rawResponsePayload &&
    same patch.failureReason loaded.failureReason

/-- The row after `loaded.update(patch)`, whatever it had become since `loaded` was read. -/
def Order.write (row : Order) (mode : UpdateMode) (now : Int) (loaded : Order)
    (patch : OrderPatch) : Order :=
  { row with
    courierOrderId := mode.column loaded.courierOrderId patch.courierOrderId row.courierOrderId
    awbNumber := mode.column loaded.awbNumber patch.awbNumber row.awbNumber
    status := mode.column loaded.status patch.status row.status
    retryCount := mode.column loaded.retryCount patch.retryCount row.retryCount
    rawRequestPayload :=
      mode.column loaded.rawRequestPayload patch.rawRequestPayload row.rawRequestPayload
    rawResponsePayload :=
      mode.column loaded.rawResponsePayload patch.rawResponsePayload row.rawResponsePayload
    failureReason := mode.column loaded.failureReason patch.failureReason row.failureReason
    updatedAt := if mode.skips loaded patch then row.updatedAt else now }

def Order.assign (loaded : Order) (now : Int) (patch : OrderPatch) : Order :=
  loaded.write .named now loaded patch

inductive CourierCall where
  | createShipment (adapter : Adapter) (order : NormalizedCreateOrderRequest)
      (result : Except Thrown NormalizedCreateOrderResponse)
  | trackShipment (adapter : Adapter) (awbNumber orderId : String)
      (result : Except Thrown NormalizedTrackingResponse)
  | cancelShipment (adapter : Adapter) (awbNumber orderId : String) (reason : Option String)
      (result : Except Thrown NormalizedCancelResponse)

/-- The database, the calls the couriers have answered so far, and the clock in milliseconds. -/
structure World where
  orders : OrderTable
  events : List TrackingEvent
  batches : List BulkBatch
  courierCalls : List CourierCall
  now : Int

/-- How the program is configured and which reading of `instance.update` applies. -/
structure Env where
  js : JsText
  registry : CourierRegistry Adapter
  dialect : DatabaseDialect
  updateMode : UpdateMode
  maxRetryAttempts : Int
  staleThresholdMs : Int
  bulkConcurrencyLimit : Int

/-- How an awaited call settles. `ok` is a database call that succeeds (whose result the
database determines), `rows` a query that was free to choose its rows; the others are
replies of a courier. -/
inductive Answer where
  | ok
  | dbError (error : Thrown)
  | rows (orderIds : List String)
  | booked (reply : NormalizedCreateOrderResponse)
  | tracked (reply : NormalizedTrackingResponse)
  | cancelled (reply : NormalizedCancelResponse)
  | refused (error : Thrown)

def uniqueConstraintError : Thrown := .error "Validation error"

/-- A JSON column stores the value `null` as SQL `NULL`. -/
def jsonColumn : Json → Option Json
  | .null => none
  | value => some value

namespace UpdateMode

@[simp] theorem column_none {α : Type} [DecidableEq α] (mode : UpdateMode) (loaded current : α) :
    mode.column loaded none current = current := rfl

@[simp] theorem column_named {α : Type} [DecidableEq α] (loaded value current : α) :
    UpdateMode.named.column loaded (some value) current = value := by
  simp [column]

theorem column_of_ne {α : Type} [DecidableEq α] (mode : UpdateMode) {loaded value : α}
    (h : value ≠ loaded) (current : α) : mode.column loaded (some value) current = value := by
  simp [column, h]

/-- A named field ends up with its new value, or was equal to the loaded one and is left alone. -/
theorem column_some {α : Type} [DecidableEq α] (mode : UpdateMode) (loaded value current : α) :
    mode.column loaded (some value) current = value ∨
      value = loaded ∧ mode.column loaded (some value) current = current := by
  by_cases h : mode = .changed ∧ value = loaded
  · exact .inr ⟨h.2, by simp [column, h]⟩
  · exact .inl (by simp only [column, if_neg h])

end UpdateMode

section
variable (mode : UpdateMode) (now : Int) (loaded : Order) (patch : OrderPatch) (row : Order)

@[simp] theorem Order.write_orderId : (row.write mode now loaded patch).orderId = row.orderId := rfl

@[simp] theorem Order.write_courierPartner :
    (row.write mode now loaded patch).courierPartner = row.courierPartner := rfl

@[simp] theorem Order.assign_orderId : (loaded.assign now patch).orderId = loaded.orderId := rfl

@[simp] theorem Order.assign_courierPartner :
    (loaded.assign now patch).courierPartner = loaded.courierPartner := rfl

end

namespace World

def empty : World := ⟨.empty, [], [], [], 0⟩

def findOne (w : World) (orderId : String) : Option Order := w.orders.find? orderId

def updateOrder (env : Env) (w : World) (loaded : Order) (patch : OrderPatch) : World :=
  { w with
    orders := w.orders.modify loaded.orderId
      (fun row => row.write env.updateMode w.now loaded patch) (fun _ => rfl) }

/-- `Order.create`; `none` is the violation of the unique index. -/
def createOrder? (w : World) (row : Order) : Option World :=
  (w.orders.insert? row).map fun orders => { w with orders }

/-- `Order.bulkCreate` with `ignoreDuplicates`. -/
def bulkCreate (w : World) (rows : List Order) : World :=
  { w with orders := w.orders.insertAllIgnore rows }

def createEvent (w : World) (event : TrackingEvent) : World :=
  { w with events := w.events ++ [event] }

def record (w : World) (call : CourierCall) : World :=
  { w with courierCalls := w.courierCalls ++ [call] }

section
variable (env : Env) (w : World) (loaded : Order) (patch : OrderPatch) (event : TrackingEvent)
  (call : CourierCall)

theorem findOne_updateOrder (x : String) :
    (w.updateOrder env loaded patch).findOne x =
      if x = loaded.orderId then
        (w.findOne x).map fun row => row.write env.updateMode w.now loaded patch
      else w.findOne x :=
  UniqueTable.find?_modify w.orders loaded.orderId x
    (fun row => row.write env.updateMode w.now loaded patch) fun _ => rfl

theorem findOne_bulkCreate (rows : List Order) (x : String) :
    (w.bulkCreate rows).findOne x =
      (w.findOne x).or (rows.find? fun row => row.orderId = x) :=
  UniqueTable.find?_insertAllIgnore ..

theorem findOne_createOrder? {after : World} {row : Order} (h : w.createOrder? row = some after)
    (x : String) : after.findOne x = if row.orderId = x then some row else w.findOne x := by
  obtain ⟨orders, inserted, rfl⟩ := Option.map_eq_some_iff.mp h
  exact UniqueTable.find?_insert? inserted x

theorem findOne_of_createOrder? {after : World} {row : Order}
    (h : w.createOrder? row = some after) : w.findOne row.orderId = none := by
  obtain ⟨orders, inserted, rfl⟩ := Option.map_eq_some_iff.mp h
  exact UniqueTable.find?_of_insert? inserted

@[simp] theorem createEvent_findOne (x : String) : (w.createEvent event).findOne x = w.findOne x :=
  rfl

@[simp] theorem record_findOne (x : String) : (w.record call).findOne x = w.findOne x := rfl

@[simp] theorem updateOrder_courierCalls :
    (w.updateOrder env loaded patch).courierCalls = w.courierCalls := rfl

@[simp] theorem createEvent_courierCalls :
    (w.createEvent event).courierCalls = w.courierCalls := rfl

@[simp] theorem bulkCreate_courierCalls (rows : List Order) :
    (w.bulkCreate rows).courierCalls = w.courierCalls := rfl

@[simp] theorem record_courierCalls : (w.record call).courierCalls = w.courierCalls ++ [call] := rfl

theorem mem_record {call' : CourierCall} (mem : call' ∈ (w.record call).courierCalls) :
    call' ∈ w.courierCalls ∨ call = call' :=
  (List.mem_append.mp mem).imp_right fun new => (List.mem_singleton.mp new).symm

theorem createOrder?_courierCalls {after : World} {row : Order}
    (h : w.createOrder? row = some after) : after.courierCalls = w.courierCalls := by
  obtain ⟨orders, -, rfl⟩ := Option.map_eq_some_iff.mp h
  rfl

theorem orderId_of_findOne {x : String} {row : Order} (h : w.findOne x = some row) :
    row.orderId = x :=
  UniqueTable.key_of_find? h

end
end World
end CourierPlatform
