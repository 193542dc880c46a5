import CourierPlatform.Spec.Tracking

/-! `trackOrder` calls for one order, one at a time, that the courier answers with one and the same
response. -/
namespace CourierPlatform
open Js TrackingService

structure Order.Trackable (env : Env) (row : Order) : Prop where
  awb : ∃ awbNumber, orNull row.awbNumber = some awbNumber
  partner : ∃ adapter, env.registry.get env.js row.courierPartner = .ok adapter

structure World.Tracked (w : World) (row : Order) (reply : NormalizedTrackingResponse) (t : World) :
    Prop where
  own : ∃ written, w.now ≤ written ∧ written ≤ t.now ∧ t.findOne row.orderId = some { row with
    status := reply.status
    updatedAt := if row.status = reply.status then row.updatedAt else written }
  others : ∀ x, x ≠ row.orderId → t.findOne x = w.findOne x
  events : ∃ added, t.events = w.events ++ added ∧
    Library.Firsts TrackingEvent.scanKey w.scanKeys (reply.trackingHistory.map (newEvent row reply)) added
  batches : t.batches = w.batches

namespace State

def tracksOnce (orderId : String) (reply : NormalizedTrackingResponse) (s : State) : Label → Prop
  | .start (.trackOrder x) => x = orderId ∧ s.tasks = []
  | .settle _ .ok => True
  | .settle _ (.tracked response) => response = reply
  | .tick _ => True
  | _ => False

/-- Calls, one at a time. Their process may die at any moment, and any operation may fail. -/
def tracksAgain (orderId : String) (reply : NormalizedTrackingResponse) (s : State) : Label → Prop
  | .start (.trackOrder x) => x = orderId ∧ s.idle = true
  | .settle _ (.tracked response) => response = reply
  | .settle _ _ => True
  | .crash _ => True
  | .tick _ => True
  | _ => False

def Returned (s : State) (reply : NormalizedTrackingResponse) : Prop :=
  .trackOrder (.resolved reply) ∈ s.tasks

end State

structure World.Converges (env : Env) (w : World) (row : Order) (reply : NormalizedTrackingResponse) :
    Prop where
  /-- An uninterrupted call is always on its way to its return. -/
  returns : ∀ s, (platform env).Reaches (State.tracksOnce row.orderId reply) (.init w) s →
    ∃ t, (platform env).Reaches (State.tracksOnce row.orderId reply) s t ∧ t.Returned reply
  tracked : ∀ t, (platform env).Reaches (State.tracksOnce row.orderId reply) (.init w) t →
    t.Returned reply → w.Tracked row reply t.world
  /-- However often a call has been stopped, another one can return. -/
  resumes : ∀ s, (platform env).Reaches (State.tracksAgain row.orderId reply) (.init w) s →
    ∃ t, (platform env).Reaches (State.tracksAgain row.orderId reply) s t ∧ t.Returned reply
  /-- What it leaves is what one uninterrupted call leaves. -/
  restarted : ∀ t, (platform env).Reaches (State.tracksAgain row.orderId reply) (.init w) t →
    t.Returned reply → ∃ u, (platform env).Reaches (State.tracksOnce row.orderId reply) (.init w) u ∧
      u.Returned reply ∧ t.world.orders = u.world.orders ∧ t.world.events = u.world.events ∧
      t.world.batches = u.world.batches

end CourierPlatform
