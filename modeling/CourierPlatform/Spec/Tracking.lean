import CourierPlatform.Library.AppendOnly
import CourierPlatform.Spec.Schedules

/-! Recorded scans, and the runs of `trackOrder` calls that record them. -/
namespace CourierPlatform

/-- What `persistUniqueTrackingEvent` compares of an event. -/
structure ScanKey where
  orderId : String
  status : ShipmentStatus
  activity : String
  eventTimestamp : Int
deriving DecidableEq

def TrackingEvent.scanKey (event : TrackingEvent) : ScanKey :=
  ⟨event.orderId, event.status, event.activity, event.eventTimestamp⟩

def TrackingEventItem.scanKey (event : TrackingEventItem) (orderId : String) : ScanKey :=
  ⟨orderId, event.status, event.activity, event.timestamp⟩

def World.scanKeys (w : World) : List ScanKey := w.events.map TrackingEvent.scanKey

def TrackingService.recordAll (row : Order) (trackingResponse : NormalizedTrackingResponse)
    (events : List TrackingEvent) (items : List TrackingEventItem) : List TrackingEvent :=
  Library.insertAllNew TrackingEvent.scanKey events (items.map (newEvent row trackingResponse))

theorem sameEvent_iff {order : Order} {event : TrackingEventItem} {stored : TrackingEvent} :
    TrackingService.sameEvent order event stored = true ↔
      stored.scanKey = event.scanKey order.orderId := by
  simp [TrackingService.sameEvent, TrackingEvent.scanKey, TrackingEventItem.scanKey]

theorem scanKey_newEvent (order : Order) (reply : NormalizedTrackingResponse)
    (event : TrackingEventItem) :
    (TrackingService.newEvent order reply event).scanKey = event.scanKey order.orderId := rfl

theorem any_sameEvent {w : World} {order : Order} {event : TrackingEventItem} :
    w.events.any (TrackingService.sameEvent order event) = true ↔
      event.scanKey order.orderId ∈ w.scanKeys := by
  simp only [List.any_eq_true, sameEvent_iff, World.scanKeys, List.mem_map]

theorem scanKeys_createEvent (w : World) (order : Order) (reply : NormalizedTrackingResponse)
    (event : TrackingEventItem) :
    (w.createEvent (TrackingService.newEvent order reply event)).scanKeys =
      w.scanKeys ++ [event.scanKey order.orderId] := by
  simp [World.scanKeys, World.createEvent, scanKey_newEvent]

namespace TrackOrder

def checking? : TrackOrder → Option ScanKey
  | findEvent order _ event _ => some (event.scanKey order.orderId)
  | _ => none

def creating? : TrackOrder → Option ScanKey
  | createEvent order _ event _ => some (event.scanKey order.orderId)
  | _ => none

end TrackOrder

namespace Task

def checking? : Task → Option ScanKey
  | trackOrder call => call.checking?
  | _ => none

def creating? : Task → Option ScanKey
  | trackOrder call => call.creating?
  | _ => none

end Task

def Label.tracking (orderId : String) : Label → Bool
  | start (.trackOrder x) => x = orderId
  | start _ => false
  | _ => true

/-- No other call has looked for the event of this key, has not found it and has yet to insert it,
when a call looks for it. -/
def State.checksAlone (s : State) : Label → Bool
  | .settle i .ok =>
    match s.tasks[i]?.bind Task.checking? with
    | some key => s.tasks.all fun task => task.creating? ≠ some key
    | none => true
  | _ => true

def bookedParcel : World :=
  World.empty.bulkCreate [{ BulkOrderService.batchRecord 0 (parcel "A-1" "mock") with
    status := .created, awbNumber := some "MCK1" }]

def urbaneBoltOrder : Order :=
  { OrderService.pendingOrder (parcel "A-1" "urbanebolt") 0 with
    status := .created, awbNumber := some "200000001170" }

def urbaneBoltParcel : World := World.empty.bulkCreate [urbaneBoltOrder]

def scannedReply : NormalizedTrackingResponse :=
  { trackingReply "A-1" "MCK1" .created with
    trackingHistory := [⟨.inTransit, "Arrived at hub", none, 1000, none⟩] }

end CourierPlatform
