import CourierPlatform.Library.Machine
import CourierPlatform.Model.BulkOrderService

/-! `runWithConcurrency`. Its runners share one counter and one array of results; between two awaits
a runner takes the next index and calls `worker`. -/
namespace CourierPlatform
open Library

inductive Runner (ε : Type) where
  | awaiting (index : Nat)
  | fulfilled
  | rejected (error : ε)

structure WorkerPool (T R ε : Type) where
  currentIndex : Nat
  /-- `new Array(items.length)`: an entry that is not written yet is a hole. -/
  results : List (Option R)
  pool : List (Runner ε)
  /-- The calls of `worker` so far. -/
  calls : List (T × Nat)
  /-- How the promise that `runWithConcurrency` returned has settled. -/
  settled : Option (Except ε (List (Option R)))

inductive PoolLabel (R ε : Type) where
  | fulfil (runner : Nat) (value : R)
  | reject (runner : Nat) (error : ε)

namespace Runner

variable {ε : Type}

@[simp] def isPending : Runner ε → Bool
  | awaiting _ => true
  | _ => false

@[simp] def awaits (i : Nat) : Runner ε → Bool
  | awaiting index => index = i
  | _ => false

@[simp] def isFulfilled : Runner ε → Bool
  | fulfilled => true
  | _ => false

end Runner

namespace WorkerPool

variable {T R ε : Type} (items : List T) (s : WorkerPool T R ε)

def pending : Nat := s.pool.countP Runner.isPending

/-- The head of the `while` loop: the next index is taken and its call is made, if there is one. -/
def takeNext : WorkerPool T R ε × Runner ε :=
  match items[s.currentIndex]? with
  | some item =>
    ({ s with currentIndex := s.currentIndex + 1, calls := s.calls ++ [(item, s.currentIndex)] },
      .awaiting s.currentIndex)
  | none => (s, .fulfilled)

@[simp] theorem takeNext_pool : (s.takeNext items).1.pool = s.pool := by
  unfold takeNext
  split <;> rfl

@[simp] theorem takeNext_results : (s.takeNext items).1.results = s.results := by
  unfold takeNext
  split <;> rfl

@[simp] theorem takeNext_settled : (s.takeNext items).1.settled = s.settled := by
  unfold takeNext
  split <;> rfl

def launch : Nat → WorkerPool T R ε → WorkerPool T R ε
  | 0, s => s
  | n + 1, s =>
    let (s', runner) := s.takeNext items
    launch n { s' with pool := s'.pool ++ [runner] }

/-- `Promise.all(pool)`: it resolves with the last runner, and rejects with the first that does. -/
def awaitAll : WorkerPool T R ε :=
  if s.settled.isNone && s.pool.all Runner.isFulfilled then
    { s with settled := some (.ok s.results) }
  else s

def next : PoolLabel R ε → Option (WorkerPool T R ε)
  | .fulfil k value =>
    match s.pool[k]? with
    | some (.awaiting index) =>
      let (s', runner) := takeNext items { s with results := s.results.set index (some value) }
      some (awaitAll { s' with pool := s'.pool.set k runner })
    | _ => none
  | .reject k error =>
    match s.pool[k]? with
    | some (.awaiting _) =>
      some { s with
        pool := s.pool.set k (.rejected error)
        settled := s.settled.or (some (.error error)) }
    | _ => none

end WorkerPool

def runWithConcurrency {T R ε : Type} (items : List T) (limit : Option Int) : WorkerPool T R ε :=
  if items.length = 0 then ⟨0, [], [], [], some (.ok [])⟩
  else
    .awaitAll <| .launch items (BulkOrderService.effectiveLimit limit items.length)
      ⟨0, List.replicate items.length none, [], [], none⟩

def workerPool (T R ε : Type) (items : List T) : Machine (WorkerPool T R ε) (PoolLabel R ε) :=
  ⟨WorkerPool.next items⟩

end CourierPlatform
