import CourierPlatform.Model.UrbaneBoltTracking
import CourierPlatform.Spec.Tracking

/-! Polls: `trackOrder` calls, one at a time, that the courier answers with one and the same body. -/
namespace CourierPlatform
open Js Library UrbaneBoltMapper

structure Poll where
  orderId : String
  parseDate : String → Option Int
  body : UrbaneBoltTrackingResponse

namespace Poll

variable (env : Env) (poll : Poll)

def reply (now : Int) (awbNumber : String) : Except Thrown NormalizedTrackingResponse :=
  toNormalizedTrackingResponse env.js poll.parseDate now poll.body awbNumber (some poll.orderId)

structure Booked (w : World) (row : Order) (awbNumber : String) : Prop where
  stored : w.findOne poll.orderId = some row
  awb : row.awbNumber = some awbNumber
  nonempty : awbNumber ≠ ""
  partner : env.registry.get env.js row.courierPartner = .ok ⟨"urbanebolt"⟩

def scanKey? (evt : UrbaneBoltTrackingEvent) : Option ScanKey :=
  ((scanDate evt).bind poll.parseDate).map fun instant =>
    ⟨poll.orderId, scanStatus env.js evt, scanActivity evt, instant⟩

/-- The fields of the body that stand outside its events can be turned into text where that is asked. -/
def readable : Bool :=
  let text (alternatives : List (Option Json)) : Bool :=
    (Json.firstTruthy alternatives).all fun value => value.toText?.isSome
  text (statusFields poll.body.rawResponse) &&
    (poll.orderId ≠ "" || text [poll.body.rawResponse.get? "orderNumber"])

end Poll

def Poll.answer (env : Env) (poll : Poll) (now : Int) : TrackOrder → Answer
  | .trackShipment _ awbNumber _ =>
    match poll.reply env now awbNumber with
    | .ok reply => .tracked reply
    | .error error => .refused error
  | _ => .ok

def State.polls (env : Env) (poll : Poll) (s : State) : Label → Prop
  | .start (.trackOrder orderId) => orderId = poll.orderId ∧ s.idle = true
  | .settle i a => ∃ call, s.tasks[i]? = some (.trackOrder call) ∧
      a = poll.answer env s.world.now call
  | .tick _ => True
  | _ => False

structure State.PolledOnce (env : Env) (poll : Poll) (s t : State) : Prop where
  reach : (platform env).Reaches (State.polls env poll) s t
  settled : t.idle = true
  one : t.tasks.length = s.tasks.length + 1

def World.HasRow (w : World) (orderId : String) (evt : UrbaneBoltTrackingEvent) : Prop :=
  ∃ row ∈ w.events, row.orderId = orderId ∧ row.rawPayload = some evt.toJson

structure Poll.RecordedOnce (env : Env) (poll : Poll) (w : World) : Prop where
  ends : ∃ t u, State.PolledOnce env poll (.init w) t ∧ State.PolledOnce env poll t u
  returns : ∀ t, State.PolledOnce env poll (.init w) t →
    ∃ reply, t.tasks[0]? = some (.trackOrder (.resolved reply))
  recorded : ∀ t, State.PolledOnce env poll (.init w) t → ∀ evt ∈ poll.body.rawEvents,
    t.world.HasRow poll.orderId evt
  again : ∀ t u, State.PolledOnce env poll (.init w) t → State.PolledOnce env poll t u →
    u.world.events = t.world.events

/-- The body can be read, every scan has a date, and a scan that has no row yet differs from all rows
and from the scans before it in what it is recorded under. -/
structure Poll.Distinct (env : Env) (poll : Poll) (w : World) : Prop where
  readable : poll.readable = true
  dated : ∀ evt ∈ poll.body.rawEvents, (scanDate evt).isSome
  fresh : ∀ before evt rest, poll.body.rawEvents = before ++ evt :: rest →
    w.HasRow poll.orderId evt ∨ poll.scanKey? env evt ∉ w.scanKeys.map some ∧
      poll.scanKey? env evt ∉ before.map (poll.scanKey? env)

end CourierPlatform
