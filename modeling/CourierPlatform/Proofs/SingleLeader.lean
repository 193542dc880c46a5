import CourierPlatform.Library.Lists
import CourierPlatform.Model.LeaderElection
import CourierPlatform.Proofs.LockLease
import CourierPlatform.Proofs.Turns

/-! One leader at a time. The leader lock is a lease whose holders are the calls of
`reconcilePendingOrders`, so a call leads alone as long as the cache answers every
request for the lock and no call outlives its lease. -/
namespace CourierPlatform
open Library ReconciliationWorker

def State.runningCycle (s : State) (task : Nat) : Bool := (s.tasks[task]?).any Task.runningCycle

theorem State.runningCycle_iff {s : State} {task : Nat} : s.runningCycle task = true ↔
    ∃ cycle, s.tasks[task]? = some (.reconcile cycle) ∧ cycle.settled = false := by
  unfold runningCycle
  cases found : s.tasks[task]? with
  | none => simp
  | some other => cases other <;> simp [Task.runningCycle]

theorem State.runningCycle_of_next {env : Env} {s t : State} {l : Label} {task : Nat}
    (moves : Moves env s l t) (startsNone : l.startsCycle = false) (running : t.runningCycle task = true) :
    s.runningCycle task = true := by
  obtain ⟨cycle, found, unsettled⟩ := runningCycle_iff.mp running
  generalize here : Task.reconcile cycle = mover at found
  cases moves.came found with
  | kept before still => exact runningCycle_iff.mpr ⟨cycle, here ▸ before, unsettled⟩
  | started request label last =>
    cases request <;> cases here
    rw [label] at startsNone
    contradiction
  | moved label awaiting step =>
    cases here
    cases step with
    | reconcile moved =>
      exact runningCycle_iff.mpr ⟨_, awaiting, Task.Moves.unsettled (.reconcile moved)⟩
  | item awaiting label item last => contradiction
  | wentOn awaiting label item => contradiction
  | collected awaiting => contradiction
  | died before => contradiction

def LeaderCall.expiry? : LeaderCall → Option Nat
  | acquired _ expiry => some expiry
  | processing _ expiry _ => some expiry
  | releaseLock _ expiry _ => some expiry
  | _ => none

/-- The call is between its successful `acquireLock` and the end of its loop. -/
def LeaderCall.leads (platform : State) : LeaderCall → Bool
  | acquired .. => true
  | processing _ _ task => platform.runningCycle task
  | _ => false

theorem LeaderCall.expiry_of_leads {call : LeaderCall} {s : State} (leads : call.leads s = true) :
    call.expiry? ≠ none := by
  cases call <;> simp_all [LeaderCall.leads, expiry?]

namespace LeaderState

variable {Db : Type} {server : RedisServer Db} {env : Env} {s t : LeaderState Db} {i j : Nat}

def leads (s : LeaderState Db) (i : Nat) : Bool := (s.calls[i]?).any (LeaderCall.leads s.platform)

theorem leads_iff : s.leads i = true ↔
    ∃ call, s.calls[i]? = some call ∧ call.leads s.platform = true := by
  unfold leads
  cases s.calls[i]? <;> simp

def leased (s : LeaderState Db) : Leased Nat (SharedCache Db) Nat :=
  ⟨s.cache, s.clock, fun i => (s.calls[i]?).bind LeaderCall.expiry?⟩

def SingleLeader (s : LeaderState Db) : Prop :=
  (∀ i j, s.leads i = true → s.leads j = true → i = j) ∧
    ∀ a b, s.platform.runningCycle a = true → s.platform.runningCycle b = true → a = b

/-- The cache answers every request for the lock, no lease expires before the loop of its call has
ended, and no call releases the lock after its own lease has expired while another's lasts. -/
def inTime (s : LeaderState Db) : LeaderLabel → Prop
  | .acquireLock _ access => s.cache.reachedBy access = true
  | .releaseLock i _ => s.leased.standing i = true ∨
      ∀ j < s.calls.length, j ≠ i → s.leased.standing j = false
  | .platform l => ∀ i < s.calls.length, s.leads i = true →
      (s.leased.wait (s.clock + l.elapsed)).standing i = true
  | _ => True

instance (s : LeaderState Db) (l : LeaderLabel) : Decidable (s.inTime l) :=
  match l with
  | .acquireLock .. => inferInstanceAs (Decidable (_ = _))
  | .releaseLock .. => inferInstanceAs (Decidable (_ ∨ ∀ j < _, _))
  | .platform _ => inferInstanceAs (Decidable (∀ i < _, _))
  | .call _ => inferInstanceAs (Decidable True)
  | .resume _ => inferInstanceAs (Decidable True)
  | .finish _ => inferInstanceAs (Decidable True)

theorem leases_set {call : LeaderCall} (found : s.calls[i]? = some call) (call' : LeaderCall) :
    (fun j => ((s.calls.set i call')[j]?).bind LeaderCall.expiry?) =
      Function.update s.leased.leases i call'.expiry? := by
  funext j
  by_cases same : j = i
  · subst same
    rw [getElem?_set_of_some found, Function.update_self]
    rfl
  · rw [List.getElem?_set_ne (Ne.symm same), Function.update_of_ne same]
    rfl

theorem leases_set_same {call call' : LeaderCall} (found : s.calls[i]? = some call)
    (same : call'.expiry? = call.expiry?) :
    (fun j => ((s.calls.set i call')[j]?).bind LeaderCall.expiry?) = s.leased.leases := by
  have now : s.leased.leases i = call'.expiry? := by
    simp [leased, found, same]
  rw [leases_set found call', ← now, Function.update_eq_self]

theorem leases_append {call : LeaderCall} (unleased : call.expiry? = none) :
    (fun j => ((s.calls ++ [call])[j]?).bind LeaderCall.expiry?) = s.leased.leases := by
  funext j
  cases added : (s.calls ++ [call])[j]? with
  | none =>
    have none : s.calls[j]? = none := by
      rw [List.getElem?_eq_none_iff, List.length_append, List.length_singleton] at added
      exact List.getElem?_eq_none (by omega)
    simp [leased, none]
  | some found =>
    rcases getElem?_concat_cases added with before | ⟨rfl, rfl⟩
    · simp [leased, before]
    · simp [leased, unleased]

theorem lt_of_standing (standing : s.leased.standing i = true) : i < s.calls.length := by
  by_contra beyond
  have none : s.calls[i]? = none := List.getElem?_eq_none (by omega)
  simp [Leased.standing, leased, none] at standing

structure Led (server : RedisServer Db) (s : LeaderState Db) : Prop where
  safe : s.leased.Safe (SharedCache.leaseStore server lockKey)
  current : ∀ i, s.leads i = true → s.leased.standing i = true
  cycles : ∀ a, s.platform.runningCycle a = true →
    ∃ i worker expiry : Nat, s.calls[i]? = some (LeaderCall.processing worker expiry a)
  begun : ∀ (i worker expiry task : Nat), s.calls[i]? = some (.processing worker expiry task) →
    task < s.platform.tasks.length

namespace Led

theorem singleLeader (h : s.Led server) : s.SingleLeader := by
  have one (i j : Nat) (left : s.leads i = true) (right : s.leads j = true) : i = j :=
    h.safe.exclusive i j (h.current i left) (h.current j right)
  refine ⟨one, ?_⟩
  intro a b left right
  obtain ⟨i, worker, expiry, here⟩ := h.cycles a left
  obtain ⟨j, worker', expiry', there⟩ := h.cycles b right
  have same : i = j := one i j (leads_iff.mpr ⟨_, here, left⟩) (leads_iff.mpr ⟨_, there, right⟩)
  subst same
  rw [here] at there
  cases there
  rfl

theorem start (w : World) (cache : SharedCache Db) (clock : Nat) (intervals : List Int) :
    (init w cache clock intervals).Led server where
  safe := .start cache clock
  current := by
    intro i leads
    contradiction
  cycles := by
    intro a running
    contradiction
  begun := by
    intro i worker expiry task found
    contradiction

theorem call (h : s.Led server) {worker : Nat}
    (moved : next server env s (.call worker) = some t) : t.Led server := by
  simp only [next, Option.map_eq_some_iff] at moved
  obtain ⟨this, found, rfl⟩ := moved
  generalize added : (if this.isProcessing then LeaderCall.returned (.ok 0) else .acquireLock worker) = call
  have unleased : call.expiry? = none := by
    subst added
    split <;> rfl
  have leases := leases_append (s := s) unleased
  constructor
  · simpa only [leased, leases] using h.safe
  · intro i leads
    obtain ⟨earlier, here, leading⟩ := leads_iff.mp leads
    rcases getElem?_concat_cases here with before | ⟨-, rfl⟩
    · simpa only [leased, leases] using h.current i (leads_iff.mpr ⟨earlier, before, leading⟩)
    · exact absurd unleased (LeaderCall.expiry_of_leads leading)
  · intro a running
    obtain ⟨i, worker, expiry, here⟩ := h.cycles a running
    refine ⟨i, worker, expiry, ?_⟩
    rw [getElem?_append_of_some here]
  · intro i worker expiry task here
    rcases getElem?_concat_cases here with before | ⟨-, rfl⟩
    · exact h.begun i worker expiry task before
    · contradiction

theorem set (h : s.Led server) {call : LeaderCall} (found : s.calls[i]? = some call)
    (call' : LeaderCall) (cache : SharedCache Db) (workers : List OrderReconciliationWorker)
    (safe : Leased.Safe (SharedCache.leaseStore server lockKey)
      ⟨cache, s.clock, Function.update s.leased.leases i call'.expiry?⟩)
    (current : call'.leads s.platform = true → call'.expiry?.any (s.clock < ·) = true)
    (idle : ∀ worker expiry task, call = .processing worker expiry task →
      s.platform.runningCycle task = false)
    (other : ∀ worker expiry task, call' ≠ .processing worker expiry task) :
    Led server ⟨s.platform, cache, s.clock, workers, s.calls.set i call'⟩ := by
  have leases := leases_set found call'
  constructor
  · simpa only [leased, leases] using safe
  · intro j leads
    obtain ⟨later, here, leading⟩ := leads_iff.mp leads
    simp only [leased, leases, Leased.standing]
    rcases getElem?_set_cases here with ⟨other, before⟩ | ⟨rfl, rfl⟩
    · rw [Function.update_of_ne other]
      exact h.current j (leads_iff.mpr ⟨later, before, leading⟩)
    · rw [Function.update_self]
      exact current leading
  · intro a running
    obtain ⟨j, worker, expiry, here⟩ := h.cycles a running
    refine ⟨j, worker, expiry, ?_⟩
    rw [List.getElem?_set_ne, here]
    rintro rfl
    rw [found, Option.some.injEq] at here
    rw [idle worker expiry a here] at running
    contradiction
  · intro j worker expiry task here
    rcases getElem?_set_cases here with ⟨-, before⟩ | ⟨-, same⟩
    · exact h.begun j worker expiry task before
    · exact absurd same.symm (other worker expiry task)

theorem acquireLock (h : s.Led server) {access : Access} (reached : s.cache.reachedBy access = true)
    (moved : next server env s (.acquireLock i access) = some t) : t.Led server := by
  simp only [next] at moved
  split at moved
  next worker found =>
    obtain ⟨this, -, rfl⟩ := Option.map_eq_some_iff.mp moved
    have unleased : (LeaderCall.returned (.ok 0)).expiry? = s.leased.leases i := by
      simp [leased, found, LeaderCall.expiry?]
    rw [SharedCache.acquireLock_reached server lockKey reached]
    have safe := h.safe.acquire i (lockTtlSeconds this.intervalMs)
    apply h.set found
    · cases granted : (s.cache.acquireLock server s.clock .connected lockKey
          (lockTtlSeconds this.intervalMs)).2 with
      | true => simpa [Leased.acquire, SharedCache.leaseStore, leased, granted, LeaderCall.expiry?]
          using safe
      | false =>
        rw [if_neg Bool.false_ne_true, unleased, Function.update_eq_self]
        simpa [Leased.acquire, SharedCache.leaseStore, leased, granted] using safe
    · intro leads
      split
      next => exact decide_eq_true (lt_leaseExpiry_lockTtl s.clock this.intervalMs)
      next refused =>
        rw [if_neg refused] at leads
        contradiction
    · intro worker' expiry task processing
      contradiction
    · intro worker' expiry task processing
      split at processing <;> contradiction
  next => contradiction

theorem resume (h : s.Led server) (moved : next server env s (.resume i) = some t) :
    t.Led server := by
  simp only [next] at moved
  split at moved
  next worker expiry found =>
    obtain ⟨platform, started, rfl⟩ := Option.map_eq_some_iff.mp moved
    cases Option.some.inj started
    have same : LeaderCall.expiry? (.processing worker expiry s.platform.tasks.length) =
        LeaderCall.expiry? (.acquired worker expiry) := rfl
    have leases := leases_set_same found same
    have earlier {task : Nat} (running : State.runningCycle ⟨s.platform.world, s.platform.tasks ++
        [Request.reconcilePendingOrders.start env s.platform.world.now]⟩ task = true) :
        s.platform.runningCycle task = true ∨ task = s.platform.tasks.length := by
      obtain ⟨cycle, here, unsettled⟩ := State.runningCycle_iff.mp running
      rcases getElem?_concat_cases here with before | ⟨last, -⟩
      · exact .inl (State.runningCycle_iff.mpr ⟨cycle, before, unsettled⟩)
      · exact .inr last
    constructor
    · simpa only [leased, leases] using h.safe
    · intro j leads
      have led : s.leads j = true := by
        obtain ⟨call, here, leading⟩ := leads_iff.mp leads
        rcases getElem?_set_cases here with ⟨-, before⟩ | ⟨rfl, -⟩
        · refine leads_iff.mpr ⟨call, before, ?_⟩
          cases call with
          | acquired worker' expiry' => rfl
          | processing worker' expiry' task =>
            exact (earlier leading).resolve_right (h.begun j worker' expiry' task before).ne
          | _ => contradiction
        · exact leads_iff.mpr ⟨_, found, rfl⟩
      simpa only [leased, leases] using h.current j led
    · intro a running
      rcases earlier running with before | rfl
      · obtain ⟨j, worker', expiry', here⟩ := h.cycles a before
        refine ⟨j, worker', expiry', ?_⟩
        rw [List.getElem?_set_ne, here]
        rintro rfl
        cases found.symm.trans here
      · refine ⟨i, worker, expiry, ?_⟩
        rw [getElem?_set_of_some found]
    · intro j worker' expiry' task here
      simp only [List.length_append, List.length_singleton]
      rcases getElem?_set_cases here with ⟨-, before⟩ | ⟨-, same⟩
      · have known := h.begun j worker' expiry' task before
        omega
      · cases same
        omega
  next => contradiction

theorem finish (h : s.Led server) (moved : next server env s (.finish i) = some t) :
    t.Led server := by
  simp only [next] at moved
  split at moved
  next worker expiry task found =>
    split at moved
    next cycle here =>
      obtain ⟨result, ended, rfl⟩ := Option.map_eq_some_iff.mp moved
      have leased : (LeaderCall.releaseLock worker expiry result).expiry? = s.leased.leases i := by
        simp [LeaderState.leased, found, LeaderCall.expiry?]
      apply h.set found
      · rw [leased, Function.update_eq_self]
        exact h.safe
      · intro leads
        contradiction
      · intro worker' expiry' task' same
        cases same
        have settled : cycle.settled = true := by
          cases cycle <;> first | rfl | contradiction
        simp [State.runningCycle, here, Task.runningCycle, settled]
      · intro worker' expiry' task' same
        contradiction
    next => contradiction
  next => contradiction

theorem releaseLock (h : s.Led server) {access : Access} (inTime : s.inTime (.releaseLock i access))
    (moved : next server env s (.releaseLock i access) = some t) : t.Led server := by
  simp only [next] at moved
  split at moved
  next worker expiry result found =>
    cases Option.some.inj moved
    apply h.set found
    · rcases SharedCache.releaseLock_cases server lockKey s.cache s.clock access with executed | lost
      · rw [executed]
        apply Leased.Safe.of_release (s := s.leased) i
        intro j other
        rcases inTime with own | none
        · exact h.safe.own_of_standing own j other
        · by_cases inside : j < s.calls.length
          · exact none j inside other
          · by_contra standing
            exact inside (lt_of_standing (by simpa using standing))
      · rw [lost]
        exact h.safe.abandon i
    · intro leads
      contradiction
    · intro worker' expiry' task same
      contradiction
    · intro worker' expiry' task same
      contradiction
  next => contradiction

theorem platform (h : s.Led server) {l : Label} (inTime : s.inTime (.platform l))
    (moved : next server env s (.platform l) = some t) : t.Led server := by
  simp only [next, Option.ite_none_left_eq_some, Option.map_eq_some_iff] at moved
  obtain ⟨startsNone, after, stepped, rfl⟩ := moved
  have before {task : Nat} (running : after.runningCycle task = true) :
      s.platform.runningCycle task = true :=
    State.runningCycle_of_next (.of_next stepped) (by simpa using startsNone) running
  constructor
  · exact h.safe.wait (Nat.le_add_right ..)
  · intro i leads
    obtain ⟨call, found, leading⟩ := leads_iff.mp leads
    have led : s.leads i = true := by
      apply leads_iff.mpr
      refine ⟨call, found, ?_⟩
      cases call with
      | acquired worker expiry => rfl
      | processing worker expiry task => exact before leading
      | _ => contradiction
    exact inTime i (List.getElem?_eq_some_iff.mp found).1 led
  · intro a running
    exact h.cycles a (before running)
  · intro i worker expiry task here
    have known := h.begun i worker expiry task here
    exact lt_of_lt_of_le known (State.length_le_of_next (.of_next stepped))

theorem of_reaches {start : LeaderState Db} (h : start.Led server)
    (reach : (leaders server env).Reaches inTime start s) : s.Led server := by
  apply reach.invariant (Led server) h
  intro a l b led inTime moved
  change next server env a l = some b at moved
  cases l with
  | call worker => exact led.call moved
  | acquireLock i access => exact led.acquireLock inTime moved
  | resume i => exact led.resume moved
  | finish i => exact led.finish moved
  | releaseLock i access => exact led.releaseLock inTime moved
  | platform l => exact led.platform inTime moved

theorem no_cycle {worker expiry : Nat} (h : s.Led server)
    (found : s.calls[i]? = some (.acquired worker expiry)) :
    s.platform.singleCycle (.start .reconcilePendingOrders) = true := by
  unfold State.singleCycle
  rw [Bool.not_eq_true', Bool.eq_false_iff]
  intro another
  obtain ⟨task, mem, runs⟩ := List.any_eq_true.mp another
  obtain ⟨a, here⟩ := List.getElem?_of_mem mem
  have running : s.platform.runningCycle a = true := by
    rw [State.runningCycle, here]
    exact runs
  obtain ⟨j, worker', expiry', processing⟩ := h.cycles a running
  have same : i = j := h.singleLeader.1 i j (leads_iff.mpr ⟨_, found, rfl⟩)
    (leads_iff.mpr ⟨_, processing, running⟩)
  rw [← same, found] at processing
  cases processing

theorem platform_step (h : s.Led server) {l : LeaderLabel} (moved : next server env s l = some t) :
    t.platform = s.platform ∨
      ∃ l', s.platform.singleCycle l' = true ∧
        (CourierPlatform.platform env).next s.platform l' = some t.platform := by
  cases l with
  | call worker =>
    obtain ⟨this, -, rfl⟩ := Option.map_eq_some_iff.mp moved
    exact .inl rfl
  | acquireLock i access =>
    simp only [next] at moved
    split at moved
    · obtain ⟨this, -, rfl⟩ := Option.map_eq_some_iff.mp moved
      exact .inl rfl
    · contradiction
  | resume i =>
    simp only [next] at moved
    split at moved
    next worker expiry found =>
      obtain ⟨platform, started, rfl⟩ := Option.map_eq_some_iff.mp moved
      exact .inr ⟨_, h.no_cycle found, started⟩
    next => contradiction
  | finish i =>
    simp only [next] at moved
    split at moved
    · split at moved
      · obtain ⟨result, -, rfl⟩ := Option.map_eq_some_iff.mp moved
        exact .inl rfl
      · contradiction
    · contradiction
  | releaseLock i access =>
    simp only [next] at moved
    split at moved
    · cases moved
      exact .inl rfl
    · contradiction
  | platform l =>
    simp only [next, Option.ite_none_left_eq_some, Option.map_eq_some_iff] at moved
    obtain ⟨startsNone, after, stepped, rfl⟩ := moved
    refine .inr ⟨l, ?_, stepped⟩
    unfold State.singleCycle
    split
    next => contradiction
    next => rfl

end Led

theorem platform_reaches {w : World} {cache : SharedCache Db} {clock : Nat} {intervals : List Int}
    (reach : (leaders server env).Reaches inTime (init w cache clock intervals) s) :
    (CourierPlatform.platform env).Reaches (fun s l => s.singleCycle l = true) (.init w) s.platform := by
  apply reach.view LeaderState.platform
  intro a l b earlier inTime moved
  exact (Led.of_reaches (.start w cache clock intervals) earlier).platform_step moved

end LeaderState

open LeaderState

/-- Calls that overlap in any way lead one at a time, and so do their cycles, if the cache they share
answers their requests for the lock and none of them outlives its lease. -/
theorem single_leader {Db : Type} (server : RedisServer Db) (env : Env) {w : World}
    {cache : SharedCache Db} {clock : Nat} {intervals : List Int} {s : LeaderState Db}
    (reach : (leaders server env).Reaches inTime (init w cache clock intervals) s) : s.SingleLeader :=
  (Led.of_reaches (.start w cache clock intervals) reach).singleLeader

def twoWorkers : LeaderState RedisTable :=
  init .empty (.redis "courier_platform:" fun _ => none) 0 [60000, 60000]

def leadersInTurn : List LeaderLabel :=
  [.call 0, .call 1, .acquireLock 0 .connected, .acquireLock 1 .connected, .resume 0,
    .platform (.tick 5000), .platform (.settle 0 (.rows [])), .finish 0, .releaseLock 0 .connected,
    .call 1, .acquireLock 2 .connected, .resume 2]

theorem single_leader_inTurn :
    ∃ s : LeaderState RedisTable, s.leads 2 = true ∧ s.SingleLeader := by
  obtain ⟨s, reach, last⟩ := Machine.Reaches.of_run_any
    (leaders referenceRedis (defaultEnv .postgres .named)) inTime twoWorkers leadersInTurn
    (fun s => s.leads 2) (by decide)
  exact ⟨s, last, single_leader referenceRedis _ reach⟩

/-- The client of the second worker has lost its connection. Both cycles find the same order, whose
request died after it had been inserted, and both book it. -/
def outage : List LeaderLabel :=
  let orderData := parcel "A-1" "mock"
  [.platform (.start (.createOrder orderData)), .platform (.settle 0 .ok), .platform (.settle 0 .ok),
    .platform (.crash [0]), .platform (.tick 61000),
    .call 0, .call 1, .acquireLock 0 .connected, .acquireLock 1 ⟨true, false, .replied⟩,
    .resume 0, .resume 1, .platform (.settle 1 (.rows ["A-1"])), .platform (.settle 2 (.rows ["A-1"])),
    .platform (.settle 1 (.booked (bookingReply orderData "MCK1"))),
    .platform (.settle 2 (.booked (bookingReply orderData "MCK2")))]

def longCycle : List LeaderLabel :=
  [.call 0, .acquireLock 0 .connected, .resume 0, .platform (.tick 56000), .call 1,
    .acquireLock 1 .connected]

def LeaderState.reached {Db : Type} (s : LeaderState Db) : LeaderLabel → Bool
  | .acquireLock _ access => s.cache.reachedBy access
  | _ => true

/-- An outage lets two calls lead and book one order twice. A long cycle lets two calls lead while
the cache answers them all. -/
theorem two_leaders :
    (∃ s, (leaders referenceRedis (defaultEnv .postgres .named)).Reaches (fun _ _ => True) twoWorkers s ∧
      ¬ s.SingleLeader ∧ s.platform.world.bookings "A-1" = 2) ∧
    ∃ s, (leaders referenceRedis (defaultEnv .postgres .named)).Reaches (fun s l => s.reached l = true)
      twoWorkers s ∧ ¬ s.SingleLeader := by
  have two_lead {s : LeaderState RedisTable} (first : s.leads 0 = true) (second : s.leads 1 = true) :
      ¬ s.SingleLeader := by
    intro single
    exact absurd (single.1 0 1 first second) (by decide)
  constructor
  · obtain ⟨s, reach, two⟩ := Machine.Reaches.of_run_any
      (leaders referenceRedis (defaultEnv .postgres .named)) (fun _ _ => True) twoWorkers outage
      (fun s => s.leads 0 && s.leads 1 && s.platform.world.bookings "A-1" = 2) (by decide)
    simp only [Bool.and_eq_true, decide_eq_true_eq] at two
    exact ⟨s, reach, two_lead two.1.1 two.1.2, two.2⟩
  · obtain ⟨s, reach, two⟩ := Machine.Reaches.of_run_any
      (leaders referenceRedis (defaultEnv .postgres .named)) (fun s l => s.reached l = true) twoWorkers
      longCycle (fun s => s.leads 0 && s.leads 1) (by decide)
    simp only [Bool.and_eq_true] at two
    exact ⟨s, reach, two_lead two.1 two.2⟩

end CourierPlatform
