import CourierPlatform.Library.Lists
import CourierPlatform.Model.ApiProcess
import CourierPlatform.Proofs.ServerMoves

/-! How the processes of the API end: one that leaves with exit code 0 owes no response to a client that
has stayed, and none outlasts the signal by more than its timeout. -/
namespace CourierPlatform
open Library

namespace ApiProcess

def quiet (this : ApiProcess) : Bool := !this.server || decide (0 < this.closingDatabase)

structure Sound (this : ApiProcess) : Prop where
  starting : this.starting = true → this.server = false
  unstarted : this.server = false →
    this.listening = false ∧ this.closeCallbacks = 0 ∧ this.closingDatabase = 0
  closing : 0 < this.closeCallbacks ∨ 0 < this.closingDatabase → this.listening = false
  exited : this.exitCode = some 0 → this.quiet = true

/-- A process that has exited, or that will by `due` and accepts no connection until then. -/
def Leaves (due : Int) (this : ApiProcess) : Prop :=
  this.exitCode.isSome = true ∨
    this.starting = false ∧ this.listening = false ∧ due ∈ this.timeouts

variable {this after : ApiProcess} {now due : Int} {idle : Bool} {event : ApiEvent}

inductive Moves (this : ApiProcess) (now : Int) (idle : Bool) : ApiEvent → ApiProcess → Prop where
  | listened (starting : this.starting = true) :
      Moves this now idle (.initDatabase true)
        { this with starting := false, server := true, listening := true }
  | failed (starting : this.starting = true) :
      Moves this now idle (.initDatabase false) { this with starting := false, exitCode := some 1 }
  | signalled (server : this.server = true) :
      Moves this now idle .signal
        { this with
          listening := false
          closeCallbacks := this.closeCallbacks + 1
          timeouts := this.timeouts ++ [now + 10000] }
  | stopped (server : this.server = false) : Moves this now idle .signal (this.exit 0)
  | closed (waiting : 0 < this.closeCallbacks) (last : idle = true) :
      Moves this now idle .close
        { this with
          closeCallbacks := 0
          closingDatabase := this.closingDatabase + this.closeCallbacks }
  | ended (ok : Bool) (waiting : 0 < this.closingDatabase) :
      Moves this now idle (.databaseClosed ok) (this.exit (if ok then 0 else 1))
  | forced {i : Nat} : Moves this now idle (.timeout i) (this.exit 1)
  | threw : Moves this now idle .uncaughtException (this.exit 1)

theorem Moves.of_next (moved : this.next now idle event = some after) :
    Moves this now idle event after := by
  simp only [next, Option.ite_none_left_eq_some] at moved
  obtain ⟨-, moved⟩ := moved
  cases event with
  | initDatabase connected =>
    simp only [Option.ite_none_right_eq_some, Option.some.injEq] at moved
    obtain ⟨starting, rfl⟩ := moved
    cases connected with
    | true => exact .listened starting
    | false => exact .failed starting
  | signal =>
    cases moved
    unfold gracefulShutdown
    split
    next server => exact .signalled server
    next server => exact .stopped (by simpa using server)
  | close =>
    simp only [Option.ite_none_right_eq_some, Option.some.injEq] at moved
    obtain ⟨⟨waiting, last⟩, rfl⟩ := moved
    exact .closed waiting last
  | databaseClosed ok =>
    simp only [Option.ite_none_right_eq_some, Option.some.injEq] at moved
    obtain ⟨waiting, rfl⟩ := moved
    exact .ended ok waiting
  | timeout i =>
    simp only at moved
    split at moved
    · simp only [Option.ite_none_right_eq_some, Option.some.injEq] at moved
      obtain ⟨-, rfl⟩ := moved
      exact .forced
    · contradiction
  | uncaughtException =>
    cases moved
    exact .threw

theorem running_of_next (moved : this.next now idle event = some after) : this.exitCode = none := by
  simp only [next, Option.ite_none_left_eq_some] at moved
  simpa using moved.1

theorem Sound.fresh : Sound {} := by
  constructor <;> simp

theorem Sound.next (h : this.Sound) (running : this.exitCode = none)
    (moves : Moves this now idle event after) : after.Sound := by
  cases moves with
  | listened starting =>
    obtain ⟨-, none, notYet⟩ := h.unstarted (h.starting starting)
    constructor <;> simp [running, none, notYet]
  | failed starting => exact ⟨fun again => absurd again Bool.false_ne_true, h.unstarted, h.closing, by simp⟩
  | signalled server =>
    refine ⟨h.starting, ?_, fun _ => rfl, ?_⟩
    · simp [server]
    · simp [running]
  | stopped server => exact ⟨h.starting, h.unstarted, h.closing, fun _ => by simp [exit, quiet, server]⟩
  | closed waiting last =>
    refine ⟨h.starting, ?_, fun _ => h.closing (.inl waiting), ?_⟩
    · intro server
      rw [(h.unstarted server).2.1] at waiting
      contradiction
    · simp [running]
  | ended ok waiting =>
    exact ⟨h.starting, h.unstarted, h.closing, fun _ => by simp [exit, quiet, waiting]⟩
  | forced => exact ⟨h.starting, h.unstarted, h.closing, by simp [exit]⟩
  | threw => exact ⟨h.starting, h.unstarted, h.closing, by simp [exit]⟩

theorem Moves.quiet (moves : Moves this now idle event after) (quiet : after.quiet = true) :
    this.quiet = true ∨ idle = true := by
  cases moves with
  | closed waiting last => exact .inr last
  | listened starting =>
    have closing : 0 < this.closingDatabase := by simpa [ApiProcess.quiet] using quiet
    exact .inl (by simp [ApiProcess.quiet, closing])
  | _ => exact .inl quiet

theorem Sound.leaves (h : this.Sound) (moves : Moves this now idle .signal after) :
    after.Leaves (now + 10000) := by
  cases moves with
  | signalled server =>
    refine .inr ⟨?_, rfl, by simp⟩
    rw [← Bool.not_eq_true]
    intro starting
    rw [h.starting starting] at server
    contradiction
  | stopped server => exact .inl rfl

theorem Leaves.next (h : this.Leaves due) (running : this.exitCode = none)
    (moves : Moves this now idle event after) : after.Leaves due := by
  obtain ⟨started, deaf, armed⟩ := h.resolve_left (by simp [running])
  cases moves with
  | listened starting => simp [started] at starting
  | failed starting => exact .inl rfl
  | signalled server => exact .inr ⟨started, rfl, List.mem_append_left _ armed⟩
  | stopped server => exact .inl rfl
  | closed waiting last => exact .inr ⟨started, deaf, armed⟩
  | ended ok waiting => exact .inl rfl
  | forced => exact .inl rfl
  | threw => exact .inl rfl

end ApiProcess

theorem Server.Moves.exchanges {config : ServerConfig} {s t : Server} {l : ServerLabel}
    (moves : Moves config s l t) :
    (∃ request uuid batchId exchange, l = .receive request uuid batchId ∧
        t.exchanges = s.exchanges ++ [exchange]) ∨
      (∀ request uuid batchId, l ≠ .receive request uuid batchId) ∧
        (t.exchanges = s.exchanges ∨ ∃ (k : Nat) (exchange : Exchange) (response : HttpResponse),
          s.exchanges[k]? = some exchange ∧
            t.exchanges = s.exchanges.set k { exchange with response := some response }) := by
  cases moves with
  | @sent _ k exchange awaited outcome here awaits unanswered ended =>
    refine .inr ⟨?_, .inr ⟨k, exchange, _, here, rfl⟩⟩
    rintro request uuid batchId rfl
    rcases ended with ⟨answer, other, -⟩ | ⟨other, -⟩ <;> contradiction
  | ofPlatform own moved => exact .inr ⟨fun _ _ _ => ServerLabel.noConfusion, .inl rfl⟩
  | ofAccounts own moved => exact .inr ⟨fun _ _ _ => ServerLabel.noConfusion, .inl rfl⟩
  | _ => exact .inl ⟨_, _, _, _, rfl, rfl⟩

namespace ApiState

variable {config : ServerConfig} {s t : ApiState} {l : ApiLabel} {p : Nat}

inductive Moves (config : ServerConfig) (s : ApiState) : ApiLabel → ApiState → Prop where
  | acted {p : Nat} {this after : ApiProcess} {event : ApiEvent} (here : s.processes[p]? = some this)
      (running : this.exitCode = none)
      (moves : this.Moves s.server.now (!s.established p) event after) :
      Moves config s (.process p event) { s with processes := s.processes.set p after }
  | connected {p : Nat} {this : ApiProcess} (here : s.processes[p]? = some this)
      (listening : this.listening = true) :
      Moves config s (.connect p) { s with connections := s.connections ++ [{ process := p }] }
  | received {c : Nat} {connection : Connection} {request : HttpRequest} {uuid batchId : String}
      {server : Server} (here : s.connections[c]? = some connection)
      (established : connection.stage = .established)
      (stepped : s.server.next config (.receive request uuid batchId) = some server) :
      Moves config s (.receive c request uuid batchId) { s with server, sockets := s.sockets ++ [c] }
  | finished {c : Nat} {connection : Connection} (here : s.connections[c]? = some connection)
      (answered : s.answered c = true) : Moves config s (.finish c) (s.setStage c connection .ended)
  | aborted {c : Nat} {connection : Connection} (here : s.connections[c]? = some connection) :
      Moves config s (.abort c) (s.setStage c connection .aborted)
  | served {l : ServerLabel} {server : Server} (permitted : s.permits l = true)
      (stepped : s.server.next config l = some server) :
      Moves config s (.server l) { s with server }

theorem Moves.of_next (moved : (apis config).next s l = some t) : Moves config s l t := by
  change next config s l = some t at moved
  cases l with
  | process p event =>
    simp only [next, bind, Option.bind_eq_some_iff] at moved
    obtain ⟨this, here, after, acts, same⟩ := moved
    cases Option.some.inj same
    exact .acted here (ApiProcess.running_of_next acts) (.of_next acts)
  | connect p =>
    simp only [next, bind, Option.bind_eq_some_iff, Option.ite_none_right_eq_some] at moved
    obtain ⟨this, here, ⟨-, listening⟩, same⟩ := moved
    cases Option.some.inj same
    exact .connected here listening
  | receive c request uuid batchId =>
    simp only [next, bind, Option.bind_eq_some_iff, Option.ite_none_right_eq_some,
      Option.map_eq_some_iff] at moved
    obtain ⟨connection, here, ⟨established, -⟩, server, stepped, rfl⟩ := moved
    exact .received here established stepped
  | finish c =>
    simp only [next, bind, Option.bind_eq_some_iff, Option.ite_none_right_eq_some] at moved
    obtain ⟨connection, here, ⟨-, answered⟩, same⟩ := moved
    cases Option.some.inj same
    exact .finished here answered
  | abort c =>
    simp only [next, bind, Option.bind_eq_some_iff, Option.ite_none_right_eq_some] at moved
    obtain ⟨connection, here, -, same⟩ := moved
    cases Option.some.inj same
    exact .aborted here
  | server l =>
    simp only [next, Option.ite_none_right_eq_some, Option.map_eq_some_iff] at moved
    obtain ⟨permitted, server, stepped, rfl⟩ := moved
    exact .served permitted stepped

def Answered (s : ApiState) (c : Nat) : Prop :=
  ∀ (k : Nat) (exchange : Exchange), s.server.exchanges[k]? = some exchange → s.sockets[k]? = some c →
    exchange.response.isSome = true

theorem answered_of (answered : s.answered c = true) : s.Answered c := by
  intro k exchange here socket
  have both : (s.server.exchanges.zip s.sockets)[k]? = some (exchange, c) :=
    List.getElem?_zip_eq_some.mpr ⟨here, socket⟩
  simpa using List.all_eq_true.mp answered _ (List.mem_of_getElem? both)

theorem not_established_iff : s.established p = false ↔
    ∀ connection ∈ s.connections, connection.process = p → connection.stage ≠ .established := by
  simp [established]

structure Sound (s : ApiState) : Prop where
  processes : ∀ process ∈ s.processes, process.Sound
  /-- Once the HTTP server of a process has closed, none of its connections is left. -/
  quiet : ∀ (p : Nat) (process : ApiProcess), s.processes[p]? = some process → process.quiet = true →
    s.established p = false
  sockets : s.sockets.length = s.server.exchanges.length
  known : ∀ c ∈ s.sockets, c < s.connections.length
  ended : ∀ (c : Nat) (connection : Connection), s.connections[c]? = some connection →
    connection.stage = .ended → s.Answered c

theorem Sound.init (w : World) (processes : Nat) : (init w processes).Sound where
  processes := by
    intro process mem
    rw [List.eq_of_mem_replicate mem]
    exact .fresh
  quiet _ _ _ _ := rfl
  sockets := rfl
  known := by
    intro c mem
    contradiction
  ended := by
    intro c connection here
    contradiction

namespace Sound

theorem setStage (h : s.Sound) {c : Nat} {connection : Connection} {stage : ConnectionStage}
    (here : s.connections[c]? = some connection) (left : stage ≠ .established)
    (ended : stage = .ended → s.Answered c) : (s.setStage c connection stage).Sound where
  processes := h.processes
  quiet := by
    intro p process found quiet
    refine not_established_iff.mpr fun other mem own => ?_
    rcases List.mem_or_eq_of_mem_set mem with before | rfl
    · exact not_established_iff.mp (h.quiet p process found quiet) other before own
    · exact left
  sockets := h.sockets
  known c mem := (h.known c mem).trans_eq List.length_set.symm
  ended := by
    intro d other found left
    rcases getElem?_set_cases found with ⟨-, before⟩ | ⟨rfl, rfl⟩
    · exact h.ended d other before left
    · exact ended left

theorem serve (h : s.Sound) {l : ServerLabel} {server : Server} (moves : s.server.Moves config l server)
    (noRequest : ∀ request uuid batchId, l ≠ .receive request uuid batchId) :
    ({ s with server } : ApiState).Sound := by
  rcases moves.exchanges with ⟨request, uuid, batchId, -, rfl, -⟩ | ⟨-, same | sent⟩
  · exact absurd rfl (noRequest request uuid batchId)
  · refine ⟨h.processes, h.quiet, h.sockets.trans (by rw [same]), h.known, ?_⟩
    intro c connection here left k exchange found
    rw [same] at found
    exact h.ended c connection here left k exchange found
  · obtain ⟨j, before, response, there, set⟩ := sent
    refine ⟨h.processes, h.quiet, h.sockets.trans (by simp [set]), h.known, ?_⟩
    intro c connection here left k exchange found socket
    rw [set] at found
    rcases getElem?_set_cases found with ⟨-, earlier⟩ | ⟨-, rfl⟩
    · exact h.ended c connection here left k exchange earlier socket
    · rfl

theorem receive (h : s.Sound) {c : Nat} {connection : Connection} {request : HttpRequest}
    {uuid batchId : String} {server : Server} (here : s.connections[c]? = some connection)
    (established : connection.stage = .established)
    (moves : s.server.Moves config (.receive request uuid batchId) server) :
    ({ s with server, sockets := s.sockets ++ [c] } : ApiState).Sound := by
  rcases moves.exchanges with ⟨-, -, -, new, -, appended⟩ | ⟨other, -⟩
  · refine ⟨h.processes, h.quiet, by simp [appended, h.sockets], ?_, ?_⟩
    · intro d mem
      rcases List.mem_append.mp mem with before | last
      · exact h.known d before
      · rw [List.mem_singleton.mp last]
        exact (List.getElem?_eq_some_iff.mp here).1
    intro d other found ended k exchange there socket
    rw [appended] at there
    rcases getElem?_concat_cases socket with before | ⟨last, rfl⟩
    · have inside : k < s.server.exchanges.length := by
        rw [← h.sockets]
        exact (List.getElem?_eq_some_iff.mp before).1
      rw [List.getElem?_append_left inside] at there
      exact h.ended d other found ended k exchange there before
    · rw [here, Option.some.injEq] at found
      rw [found, ended] at established
      contradiction
  · exact absurd rfl (other request uuid batchId)

theorem next (h : s.Sound) (moves : Moves config s l t) : t.Sound := by
  cases moves with
  | @acted p this after event here running moves =>
    refine ⟨?_, ?_, h.sockets, h.known, h.ended⟩
    · intro process mem
      rcases List.mem_or_eq_of_mem_set mem with before | rfl
      · exact h.processes process before
      · exact (h.processes this (List.mem_of_getElem? here)).next running moves
    · intro q process found quiet
      rcases getElem?_set_cases found with ⟨-, before⟩ | ⟨rfl, rfl⟩
      · exact h.quiet q process before quiet
      · rcases moves.quiet quiet with already | idle
        · exact h.quiet q this here already
        · change s.established q = false
          simpa using idle
  | @connected p this here listening =>
    refine ⟨h.processes, ?_, h.sockets, ?_, ?_⟩
    · intro q process found quiet
      refine not_established_iff.mpr fun other mem own => ?_
      rcases List.mem_append.mp mem with before | new
      · exact not_established_iff.mp (h.quiet q process found quiet) other before own
      · -- A process that is quiet does not listen.
        rw [List.mem_singleton.mp new] at own
        subst own
        rw [here, Option.some.injEq] at found
        subst found
        have sound := h.processes this (List.mem_of_getElem? here)
        simp only [ApiProcess.quiet, Bool.or_eq_true, Bool.not_eq_true', decide_eq_true_eq] at quiet
        rcases quiet with unstarted | closing
        · rw [(sound.unstarted unstarted).1] at listening
          contradiction
        · rw [sound.closing (.inr closing)] at listening
          contradiction
    · intro c mem
      exact (h.known c mem).trans (by simp)
    · intro c connection found ended
      rcases getElem?_concat_cases found with before | ⟨-, rfl⟩
      · exact h.ended c connection before ended
      · contradiction
  | received here established stepped => exact h.receive here established (.of_next stepped)
  | finished here answered => exact h.setStage here (by simp) fun _ => answered_of answered
  | aborted here => exact h.setStage here (by simp) (by simp)
  | served permitted stepped =>
    refine h.serve (.of_next stepped) ?_
    rintro request uuid batchId rfl
    contradiction

theorem answers (h : s.Sound) {k : Nat} {exchange : Exchange}
    (received : s.server.exchanges[k]? = some exchange) :
    ∃ (c : Nat) (connection : Connection), s.sockets[k]? = some c ∧ s.connections[c]? = some connection ∧
      ∀ this, s.processes[connection.process]? = some this → this.exitCode = some 0 →
        exchange.response.isSome = true ∨ connection.stage = .aborted := by
  have inside : k < s.sockets.length := by
    rw [h.sockets]
    exact (List.getElem?_eq_some_iff.mp received).1
  have socket := List.getElem?_eq_getElem inside
  have bound := h.known _ (List.mem_of_getElem? socket)
  have found := List.getElem?_eq_getElem bound
  refine ⟨_, _, socket, found, fun this here exited => ?_⟩
  have quiet := (h.processes this (List.mem_of_getElem? here)).exited exited
  have gone := not_established_iff.mp (h.quiet _ this here quiet) _ (List.mem_of_getElem? found) rfl
  cases stage : s.connections[s.sockets[k]].stage with
  | established => exact absurd stage gone
  | ended => exact .inl (h.ended _ _ found stage k exchange received socket)
  | aborted => exact .inr rfl

end Sound

/-- Once it has been told to, a process leaves in time and accepts no connection until then. -/
def Leaves (s : ApiState) (p : Nat) (due : Int) : Prop :=
  ∃ this, s.processes[p]? = some this ∧ this.Leaves due

theorem Sound.leaves (h : s.Sound) (moves : Moves config s (.process p .signal) t) :
    t.Leaves p (s.server.now + 10000) := by
  cases moves with
  | acted here running moves =>
    exact ⟨_, getElem?_set_of_some here, (h.processes _ (List.mem_of_getElem? here)).leaves moves⟩

theorem Leaves.next {due : Int} (h : s.Leaves p due) (moves : Moves config s l t) : t.Leaves p due := by
  obtain ⟨this, here, leaves⟩ := h
  cases moves with
  | @acted q other after event found running moves =>
    by_cases same : q = p
    · subst same
      rw [here, Option.some.injEq] at found
      subst found
      exact ⟨after, getElem?_set_of_some here, leaves.next running moves⟩
    · exact ⟨this, (List.getElem?_set_ne same).trans here, leaves⟩
  | _ => exact ⟨this, here, leaves⟩

theorem Leaves.deaf {due : Int} (h : s.Leaves p due) : (apis config).next s (.connect p) = none := by
  change s.next config (.connect p) = none
  obtain ⟨this, here, gone | ⟨-, deaf, -⟩⟩ := h
  · obtain ⟨code, exited⟩ := Option.isSome_iff_exists.mp gone
    simp [ApiState.next, here, exited]
  · simp [ApiState.next, here, deaf]

theorem Leaves.forced {due : Int} (h : s.Leaves p due) (up : due ≤ s.server.now)
    (alive : s.alive p = true) :
    ∃ i t, (apis config).next s (.process p (.timeout i)) = some t ∧ t.alive p = false := by
  obtain ⟨this, here, leaves⟩ := h
  have running : this.exitCode = none := by simpa [ApiState.alive, here] using alive
  obtain ⟨-, -, armed⟩ := leaves.resolve_left (by simp [running])
  obtain ⟨i, found⟩ := List.getElem?_of_mem armed
  refine ⟨i, { s with processes := s.processes.set p (this.exit 1) }, ?_, ?_⟩
  · simp [apis, ApiState.next, here, ApiProcess.next, running, found, up]
  · simp [ApiState.alive, getElem?_set_of_some here, ApiProcess.exit]

theorem Moves.server (moves : Moves config s l t) :
    t.server = s.server ∨ ∃ l', s.server.next config l' = some t.server := by
  cases moves with
  | received here established stepped => exact .inr ⟨_, stepped⟩
  | served permitted stepped => exact .inr ⟨_, stepped⟩
  | _ => exact .inl rfl

end ApiState

/-- The processes run the server. One that exits with code 0 has answered every request that it has
received, unless the client has left. One that is told to exit accepts no connection any more, and
once ten seconds have passed nothing keeps it from exiting. -/
theorem api_processes_drain (config : ServerConfig) {w : World} {processes : Nat} {s : ApiState}
    (reach : (apis config).Reaches (fun _ _ => True) (.init w processes) s) :
    (server config).Reaches (fun _ _ => True) (.init w) s.server ∧
      (∀ (k : Nat) (exchange : Exchange), s.server.exchanges[k]? = some exchange →
        ∃ (c : Nat) (connection : Connection), s.sockets[k]? = some c ∧
          s.connections[c]? = some connection ∧
            ∀ this, s.processes[connection.process]? = some this → this.exitCode = some 0 →
              exchange.response.isSome = true ∨ connection.stage = .aborted) ∧
      ∀ (p : Nat) (t u : ApiState), (apis config).next s (.process p .signal) = some t →
        (apis config).Reaches (fun _ _ => True) t u →
          (apis config).next u (.connect p) = none ∧
            (s.server.now + 10000 ≤ u.server.now → u.alive p = true →
              ∃ i v, (apis config).next u (.process p (.timeout i)) = some v ∧ v.alive p = false) := by
  have sound : s.Sound := reach.invariant ApiState.Sound (.init w processes)
    fun _ _ _ inv _ moved => inv.next (.of_next moved)
  refine ⟨?_, fun k exchange received => sound.answers received, ?_⟩
  · refine reach.view ApiState.server fun a l b _ _ moved => ?_
    rcases (ApiState.Moves.of_next moved).server with same | ⟨l', stepped⟩
    · exact .inl same
    · exact .inr ⟨l', trivial, stepped⟩
  · intro p t u told rest
    have leaves : u.Leaves p (s.server.now + 10000) := by
      refine rest.invariant (ApiState.Leaves · p (s.server.now + 10000)) ?_ ?_
      · exact sound.leaves (.of_next told)
      · exact fun _ _ _ inv _ moved => inv.next (.of_next moved)
    exact ⟨leaves.deaf, leaves.forced⟩

theorem api_processes_drain_waiting : ∃ (s u : ApiState) (exchange : Exchange),
    s.alive 0 = false ∧ s.server.exchanges[0]? = some exchange ∧ exchange.response.isSome = true ∧
      u.alive 0 = true ∧ (apis productionServer).next u (.connect 0) = none ∧
      ∃ i v, (apis productionServer).next u (.process 0 (.timeout i)) = some v ∧ v.alive 0 = false := by
  let waiting : List ApiLabel :=
    [.process 0 (.initDatabase true), .connect 0, .receive 0 (readOrder "A-1") "U-1" "B-1"]
  obtain ⟨s, drained, test⟩ := Machine.Reaches.of_run_any (apis productionServer) (fun _ _ => True)
    (.init .empty 1)
    (waiting ++ [.process 0 .signal, .server (.query 0 (.found [])), .finish 0, .process 0 .close,
      .process 0 (.databaseClosed true)])
    (fun s => s.sockets[0]? = some 0 && s.connections[0]? = some ⟨0, .ended⟩ &&
      (s.processes[0]?).any (·.exitCode = some 0) && s.server.exchanges[0]?.isSome) (by decide)
  obtain ⟨a, reach, later⟩ := Machine.Reaches.of_run_any (apis productionServer) (fun _ _ => True)
    (.init .empty 1) waiting
    (fun a => ((apis productionServer).next a (.process 0 .signal)).any fun t =>
      ((apis productionServer).run (fun _ _ => True) t [.server (.platform (.tick 10000))]).any fun u =>
        u.alive 0 && a.server.now + 10000 ≤ u.server.now) (by decide)
  simp only [Bool.and_eq_true, decide_eq_true_eq, Option.any_eq_true] at test
  obtain ⟨⟨⟨socket, ended⟩, this, here, exited⟩, received⟩ := test
  obtain ⟨exchange, received⟩ := Option.isSome_iff_exists.mp received
  obtain ⟨-, answers, -⟩ := api_processes_drain productionServer drained
  obtain ⟨c, connection, own, found, answered⟩ := answers 0 exchange received
  cases socket.symm.trans own
  cases ended.symm.trans found
  have stayed := (answered this here exited).resolve_right nofun
  obtain ⟨t, told, passed⟩ := (Option.any_eq_true _ _).mp later
  obtain ⟨u, rest, up⟩ := Machine.Reaches.of_run_any _ _ t _ _ passed
  simp only [Bool.and_eq_true, decide_eq_true_eq] at up
  obtain ⟨-, -, leaves⟩ := api_processes_drain productionServer reach
  obtain ⟨deaf, forced⟩ := leaves 0 t u told rest
  have gone : s.alive 0 = false := by simp [ApiState.alive, here, exited]
  exact ⟨s, u, exchange, gone, received, stayed, up.1, deaf, forced up.2 up.1⟩

end CourierPlatform
