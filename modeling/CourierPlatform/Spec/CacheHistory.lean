import CourierPlatform.Library.Histories
import CourierPlatform.Model.CacheService

/-! What the answers of the memory cache are to say: the value that was last written under a key, and
whether a lease on a lock is still open, both read off the history of its calls. -/
namespace CourierPlatform
open Library

inductive CacheOp where
  | get (key : String)
  | set (key value : String) (ttlSeconds : Int)
  | del (key : String)
  | acquireLock (lockKey : String) (ttlSeconds : Int)
  | releaseLock (lockKey : String)
deriving DecidableEq

inductive CacheAnswer where
  | done
  | value (found : Option String)
  | granted (granted : Bool)
deriving DecidableEq

structure CacheEvent where
  now : Int
  op : CacheOp
  answer : CacheAnswer
deriving DecidableEq

/-- The values are kept under one set of keys and the locks under another. -/
inductive CachePart where
  | value (key : String)
  | lock (lockKey : String)
deriving DecidableEq

def CacheOp.part : CacheOp → CachePart
  | .get key | .set key _ _ | .del key => .value key
  | .acquireLock lockKey _ | .releaseLock lockKey => .lock lockKey

namespace MemoryCacheService

def perform (cache : MemoryCacheService) (now : Int) : CacheOp → MemoryCacheService × CacheAnswer
  | .get key => ((cache.get now key).1, .value (cache.get now key).2)
  | .set key value ttlSeconds => (cache.set now key value ttlSeconds, .done)
  | .del key => (cache.del key, .done)
  | .acquireLock lockKey ttlSeconds =>
    ((cache.acquireLock now lockKey ttlSeconds).1,
      .granted (cache.acquireLock now lockKey ttlSeconds).2)
  | .releaseLock lockKey => (cache.releaseLock lockKey, .done)

def events : MemoryCacheService → List (Int × CacheOp) → List CacheEvent
  | _, [] => []
  | cache, (now, op) :: rest =>
    ⟨now, op, (cache.perform now op).2⟩ :: events (cache.perform now op).1 rest

end MemoryCacheService

namespace CacheEvent

def Writes (key : String) (event : CacheEvent) : Prop :=
  (∃ value ttlSeconds, event.op = .set key value ttlSeconds) ∨ event.op = .del key

def Grants (lockKey : String) (event : CacheEvent) : Prop :=
  (∃ ttlSeconds, event.op = .acquireLock lockKey ttlSeconds) ∧ event.answer = .granted true

def Releases (lockKey : String) (event : CacheEvent) : Prop := event.op = .releaseLock lockKey

end CacheEvent

/-- The latest write of the key set it to this value, and its lifetime has not ended at `t`. -/
def Serves (history : List CacheEvent) (t : Int) (key value : String) : Prop :=
  ∃ since ttlSeconds, Since (CacheEvent.Writes key) (CacheEvent.Writes key) history
      ⟨since, .set key value ttlSeconds, .done⟩ ∧
    t ≤ since + 1000 * ttlSeconds

/-- The lock was granted, has not been released since, and the lease has not ended at `t`. -/
def Leases (history : List CacheEvent) (t : Int) (lockKey : String) : Prop :=
  ∃ since ttlSeconds, Since (CacheEvent.Grants lockKey) (CacheEvent.Releases lockKey) history
      ⟨since, .acquireLock lockKey ttlSeconds, .granted true⟩ ∧
    t < since + 1000 * ttlSeconds

structure FollowsHistory (calls : List (Int × CacheOp)) : Prop where
  get : ∀ before after t key answer,
    MemoryCacheService.empty.events calls = before ++ ⟨t, .get key, answer⟩ :: after →
      ∃ found, answer = .value found ∧ ∀ value, found = some value ↔ Serves before t key value
  acquireLock : ∀ before after t lockKey ttlSeconds answer,
    MemoryCacheService.empty.events calls =
        before ++ ⟨t, .acquireLock lockKey ttlSeconds, answer⟩ :: after →
      ∃ granted, answer = .granted granted ∧ (granted = true ↔ ¬ Leases before t lockKey)
  /-- The calls on one value or one lock are answered as if there were no others. -/
  apart : ∀ part, (MemoryCacheService.empty.events calls).filter (fun event => event.op.part = part) =
    MemoryCacheService.empty.events (calls.filter fun call => call.2.part = part)

end CourierPlatform
