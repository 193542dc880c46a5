import CourierPlatform.Model.Server

/-! The processes of `server.ts`, from `startServer` to `gracefulShutdown`, and the connections on which
the requests come in. The calls that a process leaves behind when it exits may die with it or not. -/
namespace CourierPlatform
open Library

structure ApiProcess where
  /-- `startServer` awaits `initDatabase`. -/
  starting : Bool := true
  /-- `app.listen` has returned the `server`. -/
  server : Bool := false
  listening : Bool := false
  /-- The callbacks of `server.close` that wait for the last connection to end. -/
  closeCallbacks : Nat := 0
  /-- Those that await `sequelize.close`. -/
  closingDatabase : Nat := 0
  /-- When the callbacks of `setTimeout` are due. -/
  timeouts : List Int := []
  exitCode : Option Nat := none
deriving DecidableEq

inductive ApiEvent where
  /-- `initDatabase` has settled. -/
  | initDatabase (connected : Bool)
  /-- `SIGTERM` or `SIGINT`. -/
  | signal
  /-- The HTTP server has closed. -/
  | close
  /-- A `sequelize.close` has settled. -/
  | databaseClosed (ok : Bool)
  | timeout (i : Nat)
  | uncaughtException

namespace ApiProcess

def exit (this : ApiProcess) (code : Nat) : ApiProcess := { this with exitCode := some code }

/-- From the answer of `initDatabase` on. -/
def startServer (this : ApiProcess) (connected : Bool) : ApiProcess :=
  let started := { this with starting := false }
  if connected then { started with server := true, listening := true } else started.exit 1

def gracefulShutdown (this : ApiProcess) (now : Int) : ApiProcess :=
  if this.server then
    { this with
      listening := false
      closeCallbacks := this.closeCallbacks + 1
      timeouts := this.timeouts ++ [now + 10000] }
  else this.exit 0

/-- `idle` says that no connection is left. -/
def next (this : ApiProcess) (now : Int) (idle : Bool) (event : ApiEvent) : Option ApiProcess :=
  if this.exitCode.isSome then none
  else match event with
    | .initDatabase connected => if this.starting then some (this.startServer connected) else none
    | .signal => some (this.gracefulShutdown now)
    | .close =>
      if 0 < this.closeCallbacks ∧ idle then
        some { this with
          closeCallbacks := 0
          closingDatabase := this.closingDatabase + this.closeCallbacks }
      else none
    | .databaseClosed ok =>
      if 0 < this.closingDatabase then some (this.exit (if ok then 0 else 1)) else none
    | .timeout i =>
      match this.timeouts[i]? with
      | some due => if due ≤ now then some (this.exit 1) else none
      | none => none
    | .uncaughtException => some (this.exit 1)

end ApiProcess

inductive ConnectionStage where
  | established
  /-- Ended between two requests. -/
  | ended
  /-- The client has left. -/
  | aborted
deriving DecidableEq

structure Connection where
  process : Nat
  stage : ConnectionStage := .established
deriving DecidableEq

structure ApiState where
  server : Server
  processes : List ApiProcess
  connections : List Connection := []
  /-- The connection of each exchange. -/
  sockets : List Nat := []

inductive ApiLabel where
  | process (p : Nat) (event : ApiEvent)
  /-- A client connects. -/
  | connect (p : Nat)
  /-- A request comes in on connection `c`. -/
  | receive (c : Nat) (request : HttpRequest) (uuid batchId : String)
  /-- Connection `c` ends when all its requests have been answered. -/
  | finish (c : Nat)
  | abort (c : Nat)
  /-- Anything else that the server does. -/
  | server (l : ServerLabel)

namespace ApiState

variable (config : ServerConfig)

def init (w : World) (processes : Nat) : ApiState := ⟨.init w, List.replicate processes {}, [], []⟩

def alive (s : ApiState) (p : Nat) : Bool := (s.processes[p]?).any (·.exitCode.isNone)

def established (s : ApiState) (p : Nat) : Bool :=
  s.connections.any fun connection => connection.process = p ∧ connection.stage = .established

def served (s : ApiState) (k : Nat) : Bool :=
  ((s.sockets[k]?).bind (s.connections[·]?)).any fun connection => s.alive connection.process

def answered (s : ApiState) (c : Nat) : Bool :=
  (s.server.exchanges.zip s.sockets).all fun (exchange, socket) =>
    socket = c → exchange.response.isSome

def setStage (s : ApiState) (c : Nat) (connection : Connection) (stage : ConnectionStage) : ApiState :=
  { s with connections := s.connections.set c { connection with stage } }

def permits (s : ApiState) : ServerLabel → Bool
  | .receive .. => false
  | .query k _ => s.served k
  | .respond k => s.served k
  | _ => true

def next (s : ApiState) : ApiLabel → Option ApiState
  | .process p event => do
    let process ← s.processes[p]?
    let process ← process.next s.server.now (!s.established p) event
    some { s with processes := s.processes.set p process }
  | .connect p => do
    let process ← s.processes[p]?
    if process.exitCode.isNone ∧ process.listening then
      some { s with connections := s.connections ++ [{ process := p }] }
    else none
  | .receive c request uuid batchId => do
    let connection ← s.connections[c]?
    if connection.stage = .established ∧ s.alive connection.process then
      (s.server.next config (.receive request uuid batchId)).map fun server =>
        { s with server, sockets := s.sockets ++ [c] }
    else none
  | .finish c => do
    let connection ← s.connections[c]?
    if connection.stage = .established ∧ s.answered c then some (s.setStage c connection .ended) else none
  | .abort c => do
    let connection ← s.connections[c]?
    if connection.stage = .established then some (s.setStage c connection .aborted) else none
  | .server l =>
    if s.permits l then (s.server.next config l).map fun server => { s with server } else none

end ApiState

def apis (config : ServerConfig) : Machine ApiState ApiLabel := ⟨ApiState.next config⟩

end CourierPlatform
