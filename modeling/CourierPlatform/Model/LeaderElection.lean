import CourierPlatform.Model.CacheService
import CourierPlatform.Model.System

/-! `OrderReconciliationWorker.reconcilePendingOrders` with its guards, the flag of the worker
object and the leader lock. What runs between them is a cycle of the platform. -/
namespace CourierPlatform
open Library ReconciliationWorker

structure OrderReconciliationWorker where
  intervalMs : Int
  isProcessing : Bool := false
deriving DecidableEq

def Reconcile.result? : Reconcile → Option (Except Thrown Nat)
  | resolved count => some (.ok count)
  | rejected error => some (.error error)
  | _ => none

/-- A call of `reconcilePendingOrders` on the worker object with that number. `expiry` is when the lock
that was granted expires, which the call itself does not know. -/
inductive LeaderCall where
  /-- Past the flag, awaiting `acquireLock`. -/
  | acquireLock (worker : Nat)
  /-- `acquireLock` has answered `true`. -/
  | acquired (worker expiry : Nat)
  /-- In the `try` block, whose cycle is that task of the platform. -/
  | processing (worker expiry task : Nat)
  /-- In the `finally` block, awaiting `releaseLock`. -/
  | releaseLock (worker expiry : Nat) (result : Except Thrown Nat)
  | returned (result : Except Thrown Nat)

structure LeaderState (Db : Type) where
  platform : State
  cache : SharedCache Db
  /-- The clock by which the cache expires locks. -/
  clock : Nat
  workers : List OrderReconciliationWorker
  calls : List LeaderCall

inductive LeaderLabel where
  /-- The timer of the worker fires. -/
  | call (worker : Nat)
  /-- The cache answers call `i`. -/
  | acquireLock (i : Nat) (access : Access)
  /-- Call `i` resumes with `hasLock`. -/
  | resume (i : Nat)
  /-- The `try` block of call `i` is left. -/
  | finish (i : Nat)
  | releaseLock (i : Nat) (access : Access)
  /-- Anything else that happens on the platform. -/
  | platform (l : Label)

/-- A cycle starts only where a call of a worker has acquired the lock. -/
def Label.startsCycle : Label → Bool
  | start .reconcilePendingOrders => true
  | _ => false

def Label.elapsed : Label → Nat
  | tick ms => ms
  | _ => 0

namespace LeaderState

variable {Db : Type} (server : RedisServer Db) (env : Env)

def init (w : World) (cache : SharedCache Db) (clock : Nat) (intervals : List Int) : LeaderState Db :=
  ⟨.init w, cache, clock, intervals.map fun intervalMs => { intervalMs }, []⟩

def setProcessing (s : LeaderState Db) (worker : Nat) (isProcessing : Bool) :
    List OrderReconciliationWorker :=
  s.workers.modify worker fun w => { w with isProcessing }

def next (s : LeaderState Db) : LeaderLabel → Option (LeaderState Db)
  | .call worker =>
    (s.workers[worker]?).map fun this =>
      { s with calls := s.calls ++ [if this.isProcessing then .returned (.ok 0) else .acquireLock worker] }
  | .acquireLock i access =>
    match s.calls[i]? with
    | some (.acquireLock worker) =>
      (s.workers[worker]?).map fun this =>
        let ttl := lockTtlSeconds this.intervalMs
        let answer := s.cache.acquireLock server s.clock access lockKey ttl
        { s with
          cache := answer.1
          calls := s.calls.set i
            (if answer.2 then .acquired worker (leaseExpiry s.clock ttl) else .returned (.ok 0)) }
    | _ => none
  | .resume i =>
    match s.calls[i]? with
    | some (.acquired worker expiry) =>
      (State.next env s.platform (.start .reconcilePendingOrders)).map fun platform =>
        { s with
          platform
          workers := s.setProcessing worker true
          calls := s.calls.set i (.processing worker expiry s.platform.tasks.length) }
    | _ => none
  | .finish i =>
    match s.calls[i]? with
    | some (.processing worker expiry task) =>
      match s.platform.tasks[task]? with
      | some (.reconcile cycle) =>
        cycle.result?.map fun result =>
          { s with
            workers := s.setProcessing worker false
            calls := s.calls.set i (.releaseLock worker expiry result) }
      | _ => none
    | _ => none
  | .releaseLock i access =>
    match s.calls[i]? with
    | some (.releaseLock _ _ result) =>
      some { s with
        cache := s.cache.releaseLock server s.clock access lockKey
        calls := s.calls.set i (.returned result) }
    | _ => none
  | .platform l =>
    if l.startsCycle then none
    else (State.next env s.platform l).map fun platform =>
      { s with platform, clock := s.clock + l.elapsed }

end LeaderState

def leaders {Db : Type} (server : RedisServer Db) (env : Env) : Machine (LeaderState Db) LeaderLabel :=
  ⟨LeaderState.next server env⟩

end CourierPlatform
