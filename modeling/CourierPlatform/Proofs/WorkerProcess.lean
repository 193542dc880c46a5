import CourierPlatform.Library.Lists
import CourierPlatform.Model.WorkerProcess
import CourierPlatform.Proofs.Steps

/-! When the processes of the worker begin their cycles, and what a process leaves behind that has
exited: over runs in which databases fail, signals arrive and processes die at any time. -/
namespace CourierPlatform
open Library

namespace WorkerProcess

inductive Moves (this : WorkerProcess) (intervalMs : Int) (now : Nat) :
    WorkerEvent → WorkerProcess → Bool → Prop where
  | started (starting : this.starting = true) (idle : this.isRunning = false) :
      Moves this intervalMs now (.initDatabase true)
        { this with
          starting := false
          isRunning := true
          timer := some this.intervals.length
          intervals := this.intervals ++ [some (now + timerDelay intervalMs)] } true
  | ranAlready (starting : this.starting = true) (running : this.isRunning = true) :
      Moves this intervalMs now (.initDatabase true) { this with starting := false } false
  | failed (starting : this.starting = true) :
      Moves this intervalMs now (.initDatabase false)
        { this with starting := false, exitCode := some 1 } false
  | ticked {handle due : Nat} (live : this.intervals[handle]? = some (some due)) (reached : due ≤ now) :
      Moves this intervalMs now (.interval handle)
        { this with intervals := this.intervals.set handle (some (now + timerDelay intervalMs)) } true
  | signalled : Moves this intervalMs now .signal this.gracefulShutdown false
  | closed (ok : Bool) : Moves this intervalMs now (.closed ok) (this.exit (if ok then 0 else 1)) false
  | threw : Moves this intervalMs now .uncaughtException (this.exit 1) false

def ended (this : WorkerProcess) : Bool :=
  this.exitCode.isSome || (!this.starting && this.timer.isNone)

structure Ticks (this : WorkerProcess) (delay : Nat) (instants : List Nat) : Prop where
  spaced : instants.Pairwise fun earlier later => earlier + delay ≤ later
  running : this.isRunning = this.timer.isSome
  waiting : this.starting = true → this.timer = none ∧ instants = []
  timed : ∀ handle, this.timer = some handle → ∃ due, this.intervals[handle]? = some (some due)
  /-- Its only interval is due once the delay has passed since the last of them. -/
  due : ∀ handle due, this.intervals[handle]? = some (some due) → this.timer = some handle ∧
    (∃ last ∈ instants, due = last + delay) ∧ ∀ instant ∈ instants, instant + delay ≤ due

variable {this after : WorkerProcess} {intervalMs : Int} {now : Nat} {event : WorkerEvent}
  {calls : Bool} {instants : List Nat}

/-- A signal ends what has started. One that comes before does not keep the process from starting. -/
theorem gracefulShutdown_ended (started : this.starting = false) :
    this.gracefulShutdown.ended = true := by
  simp [ended, gracefulShutdown, stop, started]

theorem running_of_next (moved : this.next intervalMs now event = some (after, calls)) :
    this.exitCode = none := by
  simp only [next, Option.ite_none_left_eq_some] at moved
  simpa using moved.1

theorem Moves.of_next (moved : this.next intervalMs now event = some (after, calls)) :
    Moves this intervalMs now event after calls := by
  simp only [next, Option.ite_none_left_eq_some] at moved
  obtain ⟨-, moved⟩ := moved
  cases event with
  | initDatabase connected =>
    simp only [Option.ite_none_right_eq_some, Option.some.injEq] at moved
    obtain ⟨starting, moved⟩ := moved
    cases connected with
    | false =>
      cases moved
      exact .failed starting
    | true =>
      simp only [startWorkerProcess, start, if_true] at moved
      split at moved
      next running =>
        cases moved
        exact .ranAlready starting running
      next idle =>
        cases moved
        exact .started starting (by simpa using idle)
  | interval handle =>
    simp only at moved
    split at moved
    next due live =>
      simp only [Option.ite_none_right_eq_some, Option.some.injEq] at moved
      obtain ⟨reached, moved⟩ := moved
      cases moved
      exact .ticked live reached
    next => contradiction
  | signal =>
    cases moved
    exact .signalled
  | closed ok =>
    simp only [Option.ite_none_left_eq_some, Option.some.injEq] at moved
    obtain ⟨-, moved⟩ := moved
    cases moved
    exact .closed ok
  | uncaughtException =>
    cases moved
    exact .threw

theorem spaced_concat {delay : Nat}
    (spaced : instants.Pairwise fun earlier later => earlier + delay ≤ later)
    (past : ∀ instant ∈ instants, instant + delay ≤ now) :
    (instants ++ [now]).Pairwise fun earlier later => earlier + delay ≤ later := by
  refine List.pairwise_append.mpr ⟨spaced, List.pairwise_singleton .., ?_⟩
  intro instant mem later last
  rw [List.mem_singleton.mp last]
  exact past instant mem

namespace Ticks

variable {delay : Nat}

theorem fresh : Ticks {} delay [] := by
  constructor <;> simp

theorem stop (h : this.Ticks delay instants) : this.stop.Ticks delay instants where
  spaced := h.spaced
  running := rfl
  waiting starting := ⟨rfl, (h.waiting starting).2⟩
  timed := by
    intro handle timed
    contradiction
  due := by
    -- The one interval that is live is the one that is cleared.
    intro handle due live
    simp only [WorkerProcess.stop] at live
    split at live
    next other timed =>
      rcases getElem?_set_cases live with ⟨distinct, before⟩ | ⟨-, cleared⟩
      · have same := (h.due handle due before).1
        rw [timed, Option.some.injEq] at same
        exact absurd same.symm distinct
      · contradiction
    next timed =>
      have same := (h.due handle due live).1
      rw [timed] at same
      contradiction

theorem next (h : this.Ticks (timerDelay intervalMs) instants)
    (moved : Moves this intervalMs now event after calls) :
    after.Ticks (timerDelay intervalMs) (if calls then instants ++ [now] else instants) := by
  cases moved with
  | started starting idle =>
    obtain ⟨none, nothing⟩ := h.waiting starting
    subst nothing
    constructor
    · simp
    · simp
    · simp
    · intro handle timed
      cases timed
      exact ⟨_, List.getElem?_concat_length⟩
    · intro handle due live
      rcases getElem?_concat_cases live with before | ⟨last, same⟩
      · rw [(h.due handle due before).1] at none
        contradiction
      · cases same
        simp [last]
  | ranAlready starting running =>
    rw [h.running, (h.waiting starting).1] at running
    contradiction
  | failed starting =>
    exact ⟨h.spaced, h.running, fun again => absurd again Bool.false_ne_true, h.timed, h.due⟩
  | @ticked handle due live reached =>
    obtain ⟨timed, -, past⟩ := h.due handle due live
    have all : ∀ instant ∈ instants, instant + timerDelay intervalMs ≤ now :=
      fun instant mem => (past instant mem).trans reached
    constructor
    · exact spaced_concat h.spaced all
    · exact h.running
    · intro starting
      have none := (h.waiting starting).1
      rw [timed] at none
      contradiction
    · intro other same
      rw [timed, Option.some.injEq] at same
      subst same
      exact ⟨_, getElem?_set_of_some live⟩
    · intro other next here
      rcases getElem?_set_cases here with ⟨distinct, before⟩ | ⟨rfl, same⟩
      · have same := (h.due other next before).1
        rw [timed, Option.some.injEq] at same
        exact absurd same.symm distinct
      · cases same
        refine ⟨timed, ⟨now, by simp, rfl⟩, ?_⟩
        intro instant mem
        rcases List.mem_append.mp mem with earlier | last
        · exact (all instant earlier).trans (Nat.le_add_right ..)
        · rw [List.mem_singleton.mp last]
  | signalled => exact ⟨h.stop.spaced, h.stop.running, h.stop.waiting, h.stop.timed, h.stop.due⟩
  | closed ok => exact ⟨h.spaced, h.running, h.waiting, h.timed, h.due⟩
  | threw => exact ⟨h.spaced, h.running, h.waiting, h.timed, h.due⟩

theorem still_ended (h : this.Ticks delay instants) (ended : this.ended = true)
    (running : this.exitCode = none) (moved : Moves this intervalMs now event after calls) :
    calls = false ∧ after.ended = true := by
  have stopped : this.starting = false ∧ this.timer = none := by
    simpa [WorkerProcess.ended, running] using ended
  cases moved with
  | started starting => simp [starting] at stopped
  | ranAlready starting => simp [starting] at stopped
  | failed starting => simp [starting] at stopped
  | @ticked handle due live =>
    have timed := (h.due handle due live).1
    rw [stopped.2] at timed
    contradiction
  | signalled => exact ⟨rfl, gracefulShutdown_ended stopped.1⟩
  | closed ok => exact ⟨rfl, by simp [WorkerProcess.ended, exit]⟩
  | threw => exact ⟨rfl, by simp [WorkerProcess.ended, exit]⟩

end Ticks
end WorkerProcess

theorem State.Moves.cycle_waits {env : Env} {s t : State} {l : Label} {task : Nat} {cycle : Reconcile}
    (moves : Moves env s l t) (here : s.tasks[task]? = some (.reconcile cycle))
    (others : ∀ a, l ≠ .settle task a) : t.tasks[task]? = some (.reconcile cycle) := by
  have notStarted : l ≠ .startItem task := by
    rintro rfl
    cases moves with
    | itemStarted awaiting => cases here.symm.trans awaiting
  have notCollected : l ≠ .collect task := by
    rintro rfl
    cases moves with
    | collected awaiting => cases here.symm.trans awaiting
  rcases moves.stays here others notStarted notCollected with same | ⟨dead, -, -, api, -⟩
  · exact same
  · contradiction

theorem State.Moves.cycle_stays {env : Env} {s t : State} {l : Label} {task : Nat} {cycle : Reconcile}
    (moves : Moves env s l t) (here : s.tasks[task]? = some (.reconcile cycle)) :
    ∃ cycle', t.tasks[task]? = some (.reconcile cycle') := by
  by_cases others : ∀ a, l ≠ .settle task a
  · exact ⟨cycle, moves.cycle_waits here others⟩
  · obtain ⟨a, own⟩ := not_forall_not.mp others
    subst own
    cases moves with
    | settled awaiting moved =>
      rw [here, Option.some.injEq] at awaiting
      subst awaiting
      cases moved with
      | reconcile moved => exact ⟨_, getElem?_set_of_some here⟩

def LeaderCall.processing? : LeaderCall → Option (Nat × Nat × Nat)
  | processing worker expiry task => some (worker, expiry, task)
  | _ => none

theorem LeaderCall.processing?_iff {call : LeaderCall} {worker expiry task : Nat} :
    call.processing? = some (worker, expiry, task) ↔ call = .processing worker expiry task := by
  cases call <;> simp [processing?]

namespace LeaderState

variable {Db : Type} {server : RedisServer Db} {env : Env} {s t : LeaderState Db} {l : LeaderLabel}

inductive Moves (env : Env) (s : LeaderState Db) : LeaderLabel → LeaderState Db → Prop where
  | called {worker : Nat} (call : LeaderCall) (idle : call.processing? = none) :
      Moves env s (.call worker) { s with calls := s.calls ++ [call] }
  | asked {i worker : Nat} {access : Access} (awaiting : s.calls[i]? = some (.acquireLock worker))
      (cache : SharedCache Db) (call : LeaderCall) (idle : call.processing? = none) :
      Moves env s (.acquireLock i access) { s with cache, calls := s.calls.set i call }
  | resumed {i worker expiry : Nat} {platform : State}
      (awaiting : s.calls[i]? = some (.acquired worker expiry))
      (moves : State.Moves env s.platform (.start .reconcilePendingOrders) platform) :
      Moves env s (.resume i)
        { s with
          platform
          workers := s.setProcessing worker true
          calls := s.calls.set i (.processing worker expiry s.platform.tasks.length) }
  | finished {i worker expiry task : Nat}
      (awaiting : s.calls[i]? = some (.processing worker expiry task)) (result : Except Thrown Nat) :
      Moves env s (.finish i)
        { s with
          workers := s.setProcessing worker false
          calls := s.calls.set i (.releaseLock worker expiry result) }
  | released {i worker expiry : Nat} {access : Access} {result : Except Thrown Nat}
      (awaiting : s.calls[i]? = some (.releaseLock worker expiry result)) (cache : SharedCache Db) :
      Moves env s (.releaseLock i access) { s with cache, calls := s.calls.set i (.returned result) }
  | platformMoved {l : Label} {platform : State} (moves : State.Moves env s.platform l platform) :
      Moves env s (.platform l) { s with platform, clock := s.clock + l.elapsed }

theorem Moves.of_next (moved : next server env s l = some t) : Moves env s l t := by
  cases l with
  | call worker =>
    obtain ⟨this, -, rfl⟩ := Option.map_eq_some_iff.mp moved
    refine .called _ ?_
    split <;> rfl
  | acquireLock i access =>
    simp only [next] at moved
    split at moved
    next worker awaiting =>
      obtain ⟨this, -, rfl⟩ := Option.map_eq_some_iff.mp moved
      refine .asked awaiting _ _ ?_
      split <;> rfl
    next => contradiction
  | resume i =>
    simp only [next] at moved
    split at moved
    next worker expiry awaiting =>
      obtain ⟨platform, started, rfl⟩ := Option.map_eq_some_iff.mp moved
      exact .resumed awaiting (.of_next started)
    next => contradiction
  | finish i =>
    simp only [next] at moved
    split at moved
    next worker expiry task awaiting =>
      split at moved
      · obtain ⟨result, -, rfl⟩ := Option.map_eq_some_iff.mp moved
        exact .finished awaiting result
      · contradiction
    next => contradiction
  | releaseLock i access =>
    simp only [next] at moved
    split at moved
    next worker expiry result awaiting =>
      cases moved
      exact .released awaiting _
    next => contradiction
  | platform l =>
    simp only [next, Option.ite_none_left_eq_some, Option.map_eq_some_iff] at moved
    obtain ⟨-, platform, stepped, rfl⟩ := moved
    exact .platformMoved (.of_next stepped)

theorem setProcessing_intervals (s : LeaderState Db) (worker : Nat) (isProcessing : Bool) :
    (s.setProcessing worker isProcessing).map (·.intervalMs) = s.workers.map (·.intervalMs) := by
  unfold setProcessing
  apply List.ext_getElem?
  intro k
  simp only [List.getElem?_map, List.getElem?_modify]
  cases s.workers[k]? with
  | none => rfl
  | some worker => simp; split <;> rfl

theorem Moves.intervals (moves : Moves env s l t) :
    t.workers.map (·.intervalMs) = s.workers.map (·.intervalMs) := by
  cases moves with
  | resumed => exact s.setProcessing_intervals ..
  | finished => exact s.setProcessing_intervals ..
  | _ => rfl

theorem Moves.calls_length (moves : Moves env s l t) :
    t.calls.length = s.calls.length + if l matches .call _ then 1 else 0 := by
  cases moves <;> simp

def Cycles (s : LeaderState Db) : Prop :=
  ∀ i worker expiry task : Nat, s.calls[i]? = some (LeaderCall.processing worker expiry task) →
    ∃ cycle, s.platform.tasks[task]? = some (.reconcile cycle)

theorem Moves.cycles (moves : Moves env s l t) (h : s.Cycles) : t.Cycles := by
  intro i worker expiry task found
  cases moves with
  | called call idle =>
    rcases getElem?_concat_cases found with before | ⟨-, same⟩
    · exact h i worker expiry task before
    · subst same
      contradiction
  | asked awaiting cache call idle =>
    rcases getElem?_set_cases found with ⟨-, before⟩ | ⟨-, same⟩
    · exact h i worker expiry task before
    · subst same
      contradiction
  | resumed awaiting moves =>
    rcases getElem?_set_cases found with ⟨-, before⟩ | ⟨-, same⟩
    · obtain ⟨cycle, here⟩ := h i worker expiry task before
      exact moves.cycle_stays here
    · cases same
      cases moves with
      | started => exact ⟨_, List.getElem?_concat_length⟩
  | finished awaiting result =>
    rcases getElem?_set_cases found with ⟨-, before⟩ | ⟨-, same⟩
    · exact h i worker expiry task before
    · contradiction
  | released awaiting cache =>
    rcases getElem?_set_cases found with ⟨-, before⟩ | ⟨-, same⟩
    · exact h i worker expiry task before
    · contradiction
  | platformMoved moves =>
    obtain ⟨cycle, here⟩ := h i worker expiry task found
    exact moves.cycle_stays here

end LeaderState

namespace WorkersState

/-- The calls of `reconcilePendingOrders`, with the number of their process and when it made them. -/
def beginning {Db : Type} (s : WorkersState Db) (l : WorkersLabel) (t : WorkersState Db)
    (begun : List (Nat × Nat)) : List (Nat × Nat) :=
  match l with
  | .process k _ =>
    if t.leaders.calls.length = s.leaders.calls.length then begun else begun ++ [(k, s.leaders.clock)]
  | .leaders _ => begun

def instants (k : Nat) (begun : List (Nat × Nat)) : List Nat :=
  begun.filterMap fun call => if call.1 = k then some call.2 else none

/-- No call is missing from the notes, and each process keeps to its interval. -/
structure KeepTime {Db : Type} (intervals : List Int) (s : WorkersState Db) (begun : List (Nat × Nat)) :
    Prop where
  noted : begun.length = s.leaders.calls.length
  ticks : ∀ (k : Nat) (this : WorkerProcess) (intervalMs : Int), s.processes[k]? = some this →
    intervals[k]? = some intervalMs → this.Ticks (timerDelay intervalMs) (instants k begun)

variable {Db : Type} {server : RedisServer Db} {env : Env} {s t : WorkersState Db} {l : WorkersLabel}
  {intervals : List Int} {begun later : List (Nat × Nat)} {k : Nat}

theorem instants_concat (k j now : Nat) (begun : List (Nat × Nat)) :
    instants k (begun ++ [(j, now)]) = if j = k then instants k begun ++ [now] else instants k begun := by
  unfold instants
  rw [List.filterMap_append]
  split
  next same => simp [same]
  next other => simp [other]

inductive Moves (server : RedisServer Db) (env : Env) (s : WorkersState Db) :
    WorkersLabel → WorkersState Db → Prop where
  | began {k : Nat} {this after : WorkerProcess} {worker : OrderReconciliationWorker}
      {event : WorkerEvent} {leaders : LeaderState Db} (here : s.processes[k]? = some this)
      (own : s.leaders.workers[k]? = some worker) (running : this.exitCode = none)
      (moved : this.Moves worker.intervalMs s.leaders.clock event after true)
      (called : s.leaders.next server env (.call k) = some leaders) :
      Moves server env s (.process k event) ⟨leaders, s.processes.set k after⟩
  | acted {k : Nat} {this after : WorkerProcess} {worker : OrderReconciliationWorker}
      {event : WorkerEvent} (here : s.processes[k]? = some this) (own : s.leaders.workers[k]? = some worker)
      (running : this.exitCode = none)
      (moved : this.Moves worker.intervalMs s.leaders.clock event after false) :
      Moves server env s (.process k event) ⟨s.leaders, s.processes.set k after⟩
  | others {l : LeaderLabel} {leaders : LeaderState Db} (permitted : s.permits l = true)
      (stepped : s.leaders.next server env l = some leaders) :
      Moves server env s (.leaders l) ⟨leaders, s.processes⟩

theorem Moves.of_next (moved : next server env s l = some t) : Moves server env s l t := by
  cases l with
  | process k event =>
    simp only [next, bind, Option.bind_eq_some_iff, Prod.exists] at moved
    obtain ⟨this, here, worker, own, after, calls, acts, moved⟩ := moved
    have running := WorkerProcess.running_of_next acts
    cases calls with
    | true =>
      obtain ⟨leaders, called, same⟩ := Option.bind_eq_some_iff.mp moved
      cases Option.some.inj same
      exact .began here own running (.of_next acts) called
    | false =>
      cases Option.some.inj moved
      exact .acted here own running (.of_next acts)
  | leaders l =>
    simp only [next, Option.ite_none_right_eq_some, Option.map_eq_some_iff] at moved
    obtain ⟨permitted, leaders, stepped, rfl⟩ := moved
    exact .others permitted stepped

theorem Moves.leaders (moves : Moves server env s l t) :
    t.leaders = s.leaders ∨ ∃ l', s.leaders.next server env l' = some t.leaders := by
  cases moves with
  | began here own running moved called => exact .inr ⟨_, called⟩
  | acted => exact .inl rfl
  | others permitted stepped => exact .inr ⟨_, stepped⟩

structure Sound (intervals : List Int) (s : WorkersState Db) (begun : List (Nat × Nat)) : Prop where
  time : s.KeepTime intervals begun
  intervals : s.leaders.workers.map (·.intervalMs) = intervals
  cycles : s.leaders.Cycles

namespace Sound

theorem start (w : World) (cache : SharedCache Db) (clock : Nat) (intervals : List Int) :
    (init w cache clock intervals).Sound intervals [] where
  time := by
    refine ⟨rfl, ?_⟩
    intro k this intervalMs here own
    have fresh : this = {} := by
      simp only [init, List.getElem?_map, Option.map_eq_some_iff] at here
      obtain ⟨-, -, rfl⟩ := here
      rfl
    rw [fresh]
    exact .fresh
  intervals := by simp [init, LeaderState.init, Function.comp_def]
  cycles := by
    intro i worker expiry task found
    contradiction

theorem interval (h : s.Sound intervals begun) {worker : OrderReconciliationWorker}
    (own : s.leaders.workers[k]? = some worker) : intervals[k]? = some worker.intervalMs := by
  rw [← h.intervals, List.getElem?_map, own, Option.map_some]

theorem ticks_set (h : s.Sound intervals begun) {this after : WorkerProcess}
    {worker : OrderReconciliationWorker} {event : WorkerEvent} {calls : Bool}
    (here : s.processes[k]? = some this) (own : s.leaders.workers[k]? = some worker)
    (moved : this.Moves worker.intervalMs s.leaders.clock event after calls) (j : Nat)
    (process : WorkerProcess) (intervalMs : Int) (found : (s.processes.set k after)[j]? = some process)
    (interval : intervals[j]? = some intervalMs) :
    process.Ticks (timerDelay intervalMs)
      (instants j (if calls then begun ++ [(k, s.leaders.clock)] else begun)) := by
  rcases getElem?_set_cases found with ⟨other, before⟩ | ⟨same, rfl⟩
  · have unchanged : instants j (if calls then begun ++ [(k, s.leaders.clock)] else begun) =
        instants j begun := by
      split
      · rw [instants_concat, if_neg (Ne.symm other)]
      · rfl
    rw [unchanged]
    exact h.time.ticks j process intervalMs before interval
  · subst same
    rw [h.interval own, Option.some.injEq] at interval
    subst interval
    have ticked := (h.time.ticks j this _ here (h.interval own)).next moved
    cases calls with
    | true => simpa [instants_concat] using ticked
    | false => simpa using ticked

theorem next (h : s.Sound intervals begun) (moves : Moves server env s l t) :
    t.Sound intervals (beginning s l t begun) := by
  cases moves with
  | @began k this after worker event leaders here own running moved called =>
    have step := LeaderState.Moves.of_next called
    have longer : leaders.calls.length = s.leaders.calls.length + 1 := step.calls_length
    have noted : beginning s (.process k event) ⟨leaders, s.processes.set k after⟩ begun =
        begun ++ [(k, s.leaders.clock)] := if_neg (by simp [longer])
    rw [noted]
    refine ⟨⟨?_, h.ticks_set here own moved⟩, step.intervals.trans h.intervals, step.cycles h.cycles⟩
    simp [longer, h.time.noted]
  | @acted k this after worker event here own running moved =>
    have noted : beginning s (.process k event) ⟨s.leaders, s.processes.set k after⟩ begun = begun :=
      if_pos rfl
    rw [noted]
    exact ⟨⟨h.time.noted, h.ticks_set here own moved⟩, h.intervals, h.cycles⟩
  | @others l leaders permitted stepped =>
    have step := LeaderState.Moves.of_next stepped
    have same : leaders.calls.length = s.leaders.calls.length := by
      rw [step.calls_length]
      cases l <;> first | rfl | contradiction
    exact ⟨⟨h.time.noted.trans same.symm, h.time.ticks⟩, step.intervals.trans h.intervals,
      step.cycles h.cycles⟩

theorem still_ended (h : s.Sound intervals begun) (moves : Moves server env s l t) {this : WorkerProcess}
    (here : s.processes[k]? = some this) (ended : this.ended = true) :
    (∃ after, t.processes[k]? = some after ∧ after.ended = true) ∧
      instants k (beginning s l t begun) = instants k begun := by
  cases moves with
  | @began j other after worker event leaders found own running moved called =>
    have longer : leaders.calls.length = s.leaders.calls.length + 1 :=
      (LeaderState.Moves.of_next called).calls_length
    have noted : beginning s (.process j event) ⟨leaders, s.processes.set j after⟩ begun =
        begun ++ [(j, s.leaders.clock)] := if_neg (by simp [longer])
    have distinct : j ≠ k := by
      rintro rfl
      rw [here, Option.some.injEq] at found
      subst found
      have ticks := h.time.ticks j this _ here (h.interval own)
      exact Bool.noConfusion (ticks.still_ended ended running moved).1
    rw [noted, instants_concat, if_neg distinct]
    exact ⟨⟨this, (List.getElem?_set_ne distinct).trans here, ended⟩, rfl⟩
  | @acted j other after worker event found own running moved =>
    refine ⟨?_, congrArg (instants k) (if_pos rfl)⟩
    by_cases same : j = k
    · subst same
      rw [here, Option.some.injEq] at found
      subst found
      have ticks := h.time.ticks j this _ here (h.interval own)
      exact ⟨after, getElem?_set_of_some here, (ticks.still_ended ended running moved).2⟩
    · exact ⟨this, (List.getElem?_set_ne same).trans here, ended⟩
  | others permitted stepped => exact ⟨⟨this, here, ended⟩, rfl⟩

end Sound

theorem exited_iff : s.exited k = true ↔
    ∃ this, s.processes[k]? = some this ∧ this.exitCode.isSome = true := by
  simp [exited, Option.any_eq_true]

theorem Moves.still_exited (moves : Moves server env s l t) (exited : s.exited k = true) :
    t.exited k = true := by
  obtain ⟨this, here, gone⟩ := exited_iff.mp exited
  have kept {j : Nat} {other : WorkerProcess} (after : WorkerProcess)
      (found : s.processes[j]? = some other) (running : other.exitCode = none) :
      (s.processes.set j after)[k]? = some this := by
    have distinct : j ≠ k := by
      rintro rfl
      rw [here, Option.some.injEq] at found
      subst found
      simp [running] at gone
    exact (List.getElem?_set_ne distinct).trans here
  cases moves with
  | began found own running => exact exited_iff.mpr ⟨this, kept _ found running, gone⟩
  | acted found own running => exact exited_iff.mpr ⟨this, kept _ found running, gone⟩
  | others permitted stepped => exact exited

theorem Moves.abandoned (moves : Moves server env s l t) {i task expiry : Nat} {cycle : Reconcile}
    (exited : s.exited k = true) (here : s.leaders.calls[i]? = some (.processing k expiry task))
    (running : s.leaders.platform.tasks[task]? = some (.reconcile cycle)) :
    t.leaders.calls[i]? = some (.processing k expiry task) ∧
      t.leaders.platform.tasks[task]? = some (.reconcile cycle) := by
  cases moves with
  | began found own alive moved called =>
    cases LeaderState.Moves.of_next called with
    | called call idle => exact ⟨getElem?_append_of_some here, running⟩
  | acted => exact ⟨here, running⟩
  | @others l leaders permitted stepped =>
    have other {j : Nat} {call call' : LeaderCall} (awaiting : s.leaders.calls[j]? = some call)
        (distinct : call ≠ .processing k expiry task) :
        (s.leaders.calls.set j call')[i]? = some (.processing k expiry task) := by
      refine (List.getElem?_set_ne ?_).trans here
      rintro rfl
      rw [here, Option.some.injEq] at awaiting
      exact distinct awaiting.symm
    cases LeaderState.Moves.of_next stepped with
    | called => contradiction
    | asked awaiting cache call idle => exact ⟨other awaiting nofun, running⟩
    | resumed awaiting moves =>
      exact ⟨other awaiting nofun, moves.cycle_waits running fun _ => Label.noConfusion⟩
    | finished awaiting result =>
      refine ⟨other awaiting ?_, running⟩
      rintro same
      simp [permits, awaiting, same, goesOn, exited] at permitted
    | released awaiting cache => exact ⟨other awaiting nofun, running⟩
    | platformMoved moves =>
      refine ⟨here, moves.cycle_waits running ?_⟩
      rintro a rfl
      have alive := List.all_eq_true.mp permitted _ (List.mem_of_getElem? here)
      simp [exited] at alive

theorem sound_of_reaches {start : WorkersState Db}
    (reach : ((workers server env).observed beginning).Reaches (fun _ _ => True) (start, begun) (t, later))
    (h : start.Sound intervals begun) : t.Sound intervals later := by
  refine @Machine.Reaches.observed_invariant _ _ _ (fun _ _ => True) _ _ _ _ _ _
    (WorkersState.Sound intervals) h ?_ reach
  exact fun _ _ _ _ inv _ moved => inv.next (.of_next moved)

theorem ended_of_reaches {this : WorkerProcess} (h : s.Sound intervals begun)
    (here : s.processes[k]? = some this) (ended : this.ended = true)
    (reach : ((workers server env).observed beginning).Reaches (fun _ _ => True) (s, begun) (t, later)) :
    instants k later = instants k begun := by
  have still : t.Sound intervals later ∧
      (∃ after, t.processes[k]? = some after ∧ after.ended = true) ∧
        instants k later = instants k begun := by
    refine @Machine.Reaches.observed_invariant _ _ _ (fun _ _ => True) _ _ _ _ _ _
      (fun a notes => a.Sound intervals notes ∧
        (∃ after, a.processes[k]? = some after ∧ after.ended = true) ∧
          instants k notes = instants k begun) ⟨h, ⟨this, here, ended⟩, rfl⟩ ?_ reach
    rintro a l b notes ⟨sound, ⟨after, found, stopped⟩, same⟩ - moved
    have step := Moves.of_next moved
    obtain ⟨kept, none⟩ := sound.still_ended step found stopped
    exact ⟨sound.next step, kept, none.trans same⟩
  exact still.2.2

theorem abandoned_of_reaches {i task expiry : Nat} {cycle : Reconcile} (exited : s.exited k = true)
    (here : s.leaders.calls[i]? = some (.processing k expiry task))
    (running : s.leaders.platform.tasks[task]? = some (.reconcile cycle))
    (reach : ((workers server env).observed beginning).Reaches (fun _ _ => True) (s, begun) (t, later)) :
    t.leaders.calls[i]? = some (.processing k expiry task) ∧
      t.leaders.platform.tasks[task]? = some (.reconcile cycle) := by
  have still : t.exited k = true ∧ t.leaders.calls[i]? = some (.processing k expiry task) ∧
      t.leaders.platform.tasks[task]? = some (.reconcile cycle) := by
    refine @Machine.Reaches.observed_invariant _ _ _ (fun _ _ => True) _ _ _ _ _ _
      (fun a _ => a.exited k = true ∧ a.leaders.calls[i]? = some (.processing k expiry task) ∧
        a.leaders.platform.tasks[task]? = some (.reconcile cycle)) ⟨exited, here, running⟩ ?_ reach
    rintro a l b notes ⟨gone, found, waits⟩ - moved
    have step := Moves.of_next moved
    exact ⟨step.still_exited gone, step.abandoned gone found waits⟩
  exact still.2

end WorkersState

open WorkersState

/-- Whatever fails and whichever signals arrive, the processes run the calls of their workers, each
at least its interval after the one before. A process that has been stopped or has exited makes no
further call, and the cycle in which it died stays where it was, before the release of its lock. -/
theorem worker_process_lifecycle {Db : Type} (server : RedisServer Db) (env : Env) {w : World}
    {cache : SharedCache Db} {clock : Nat} {intervals : List Int} {s : WorkersState Db}
    {begun : List (Nat × Nat)}
    (reach : ((workers server env).observed beginning).Reaches (fun _ _ => True)
      (init w cache clock intervals, []) (s, begun)) :
    (leaders server env).Reaches (fun _ _ => True) (.init w cache clock intervals) s.leaders ∧
      s.KeepTime intervals begun ∧
      ∀ t later, ((workers server env).observed beginning).Reaches (fun _ _ => True)
          (s, begun) (t, later) →
        (∀ (k : Nat) (this : WorkerProcess), s.processes[k]? = some this → this.ended = true →
          instants k later = instants k begun) ∧
        ∀ k i task expiry : Nat, s.exited k = true →
          s.leaders.calls[i]? = some (.processing k expiry task) →
            t.leaders.calls[i]? = s.leaders.calls[i]? ∧
              t.leaders.platform.tasks[task]? = s.leaders.platform.tasks[task]? := by
  have sound : s.Sound intervals begun := sound_of_reaches reach (.start w cache clock intervals)
  refine ⟨?_, sound.time, ?_⟩
  · refine reach.view (fun a => a.1.leaders) ?_
    rintro ⟨a, notes⟩ l ⟨b, noted⟩ - - moved
    obtain ⟨b, stepped, same⟩ := Option.map_eq_some_iff.mp moved
    cases same
    rcases (Moves.of_next stepped).leaders with same | ⟨l', step⟩
    · exact .inl same
    · exact .inr ⟨l', trivial, step⟩
  · intro t later rest
    refine ⟨fun k this here ended => ended_of_reaches sound here ended rest, ?_⟩
    intro k i task expiry exited here
    obtain ⟨cycle, running⟩ := sound.cycles i k expiry task here
    rw [here, running]
    exact abandoned_of_reaches exited here running rest

theorem worker_process_lifecycle_terminated :
    ∃ (s t : WorkersState RedisTable) (begun later : List (Nat × Nat)),
      s.exited 0 = true ∧ s.KeepTime [60000, 60000] begun ∧ later = [(0, 0), (1, 0), (1, 60000)] ∧
        instants 0 later = instants 0 begun ∧ s.leaders.calls[0]? = some (.processing 0 55000 0) ∧
        t.leaders.calls[0]? = s.leaders.calls[0]? := by
  let processes := (workers referenceRedis (defaultEnv .postgres .named)).observed beginning
  obtain ⟨⟨s, begun⟩, reach, first⟩ := Machine.Reaches.of_run_any processes (fun _ _ => True)
    (init .empty (.redis "courier_platform:" fun _ => none) 0 [60000, 60000], [])
    [.process 0 (.initDatabase true), .process 1 (.initDatabase true),
      .leaders (.acquireLock 0 .connected), .leaders (.acquireLock 1 .connected), .leaders (.resume 0),
      .process 0 .signal, .process 0 (.closed true)]
    (fun s => s.1.exited 0 &&
      (s.1.leaders.calls[0]?).any (fun call => call.processing? = some (0, 55000, 0)) &&
      (processes.run (fun _ _ => True) s
        [.leaders (.platform (.tick 60000)), .process 1 (.interval 0),
          .leaders (.acquireLock 2 .connected), .leaders (.resume 2)]).any
        fun t => t.2 = [(0, 0), (1, 0), (1, 60000)]) (by decide)
  simp only [Bool.and_eq_true] at first
  obtain ⟨⟨exited, inCycle⟩, taken⟩ := first
  obtain ⟨⟨t, later⟩, rest, noted⟩ := Machine.Reaches.of_run_any processes _ (s, begun) _ _ taken
  obtain ⟨call, here, isCycle⟩ := (Option.any_eq_true _ _).mp inCycle
  rw [LeaderCall.processing?_iff.mp (of_decide_eq_true isCycle)] at here
  obtain ⟨-, time, after⟩ := worker_process_lifecycle _ _ reach
  obtain ⟨none, stays⟩ := after t later rest
  obtain ⟨this, found, gone⟩ := exited_iff.mp exited
  have ended : this.ended = true := by simp [WorkerProcess.ended, gone]
  exact ⟨s, t, begun, later, exited, time, of_decide_eq_true noted, none 0 this found ended, here,
    (stays 0 0 0 55000 exited here).1⟩

end CourierPlatform
