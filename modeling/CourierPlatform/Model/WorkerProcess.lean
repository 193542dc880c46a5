import CourierPlatform.Model.LeaderElection

/-! The processes of `worker.ts`: `start` and `stop` of `OrderReconciliationWorker` and what calls
them. Their timers run by the clock of the cache. -/
namespace CourierPlatform
open Library

structure WorkerProcess where
  isRunning : Bool := false
  timer : Option Nat := none
  /-- When the callback of each interval is due; `none` once it has been cleared. -/
  intervals : List (Option Nat) := []
  /-- `startWorkerProcess` awaits `initDatabase`. -/
  starting : Bool := true
  /-- The calls of `gracefulShutdown` that await `sequelize.close`. -/
  closing : Nat := 0
  exitCode : Option Nat := none
deriving DecidableEq

/-- `setInterval` takes one millisecond for a delay that is not positive or that 32 bits do not hold. -/
def timerDelay (ms : Int) : Nat := if 1 ≤ ms ∧ ms ≤ 2147483647 then ms.toNat else 1

inductive WorkerEvent where
  /-- `initDatabase` has settled. -/
  | initDatabase (connected : Bool)
  /-- The event loop runs the callback of an interval. -/
  | interval (handle : Nat)
  /-- `SIGTERM` or `SIGINT`. -/
  | signal
  /-- A `sequelize.close` has settled. -/
  | closed (ok : Bool)
  | uncaughtException

namespace WorkerProcess

def start (this : WorkerProcess) (intervalMs : Int) (now : Nat) : WorkerProcess × Bool :=
  if this.isRunning then (this, false)
  else
    ({ this with
        isRunning := true
        timer := some this.intervals.length
        intervals := this.intervals ++ [some (now + timerDelay intervalMs)] }, true)

def stop (this : WorkerProcess) : WorkerProcess :=
  { this with
    isRunning := false
    timer := none
    intervals := match this.timer with
      | some handle => this.intervals.set handle none
      | none => this.intervals }

def exit (this : WorkerProcess) (code : Nat) : WorkerProcess := { this with exitCode := some code }

def startWorkerProcess (this : WorkerProcess) (connected : Bool) (intervalMs : Int) (now : Nat) :
    WorkerProcess × Bool :=
  let started := { this with starting := false }
  if connected then started.start intervalMs now else (started.exit 1, false)

/-- Up to its `await`. -/
def gracefulShutdown (this : WorkerProcess) : WorkerProcess :=
  { this.stop with closing := this.closing + 1 }

def next (this : WorkerProcess) (intervalMs : Int) (now : Nat) (event : WorkerEvent) :
    Option (WorkerProcess × Bool) :=
  if this.exitCode.isSome then none
  else match event with
    | .initDatabase connected =>
      if this.starting then some (this.startWorkerProcess connected intervalMs now) else none
    | .interval handle =>
      match this.intervals[handle]? with
      | some (some due) =>
        -- Node rearms an interval from when its callback ran.
        if due ≤ now then
          some ({ this with
            intervals := this.intervals.set handle (some (now + timerDelay intervalMs)) }, true)
        else none
      | _ => none
    | .signal => some (this.gracefulShutdown, false)
    | .closed ok =>
      if this.closing = 0 then none else some (this.exit (if ok then 0 else 1), false)
    | .uncaughtException => some (this.exit 1, false)

end WorkerProcess

structure WorkersState (Db : Type) where
  leaders : LeaderState Db
  processes : List WorkerProcess

inductive WorkersLabel where
  | process (k : Nat) (event : WorkerEvent)
  /-- Anything else, but no call that a process has not made. -/
  | leaders (l : LeaderLabel)

namespace WorkersState

variable {Db : Type} (server : RedisServer Db) (env : Env)

def init (w : World) (cache : SharedCache Db) (clock : Nat) (intervals : List Int) : WorkersState Db :=
  ⟨.init w cache clock intervals, intervals.map fun _ => {}⟩

def exited (s : WorkersState Db) (k : Nat) : Bool :=
  (s.processes[k]?).any fun process => process.exitCode.isSome

/-- The code of a call does not go on once its process has exited. A command that is on its way to
the cache is still answered. -/
def goesOn (s : WorkersState Db) : LeaderCall → Bool
  | .acquired worker _ => !s.exited worker
  | .processing worker _ _ => !s.exited worker
  | _ => true

def permits (s : WorkersState Db) : LeaderLabel → Bool
  | .call _ => false
  | .resume i => (s.leaders.calls[i]?).all s.goesOn
  | .finish i => (s.leaders.calls[i]?).all s.goesOn
  | .platform (.settle task _) => s.leaders.calls.all fun
    | .processing worker _ cycle => !(cycle = task && s.exited worker)
    | _ => true
  | _ => true

def next (s : WorkersState Db) : WorkersLabel → Option (WorkersState Db)
  | .process k event => do
    let process ← s.processes[k]?
    let worker ← s.leaders.workers[k]?
    let (process, calls) ← process.next worker.intervalMs s.leaders.clock event
    let leaders ← if calls then s.leaders.next server env (.call k) else some s.leaders
    some ⟨leaders, s.processes.set k process⟩
  | .leaders l =>
    if s.permits l then (s.leaders.next server env l).map fun leaders => { s with leaders } else none

end WorkersState

def workers {Db : Type} (server : RedisServer Db) (env : Env) :
    Machine (WorkersState Db) WorkersLabel :=
  ⟨WorkersState.next server env⟩

end CourierPlatform
