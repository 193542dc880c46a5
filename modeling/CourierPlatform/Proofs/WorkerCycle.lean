import CourierPlatform.Proofs.BacklogDone
import CourierPlatform.Spec.WorkerCycle

/-! A cycle works through the rows of its query one by one. What is done of a row is done for good, and the
rows that have not been begun are as the query returned them. -/
namespace CourierPlatform
open Js Library ReconciliationWorker

/-- The attempts of a cycle, as far as they are in the orders table, in the events and with the couriers. -/
structure World.Attempted (env : Env) (w : World) (written noted called : List (Order × DispatchOutcome))
    (t : World) : Prop where
  rows : ∀ attempt ∈ written, attempt.2.Of env attempt.1 ∧ ∃ updatedAt,
    t.findOne attempt.1.orderId = some (attempt.2.row env attempt.1 updatedAt)
  others : ∀ x, x ∉ written.map (·.1.orderId) → t.findOne x = w.findOne x
  events : ∃ added, t.events = w.events ++ added ∧
    (∀ event ∈ added, event.orderId ∈ noted.map (·.1.orderId)) ∧
    ∀ attempt ∈ noted, ∃ now, added.filter (·.orderId = attempt.1.orderId) =
      attempt.2.events env attempt.1 now
  calls : t.courierCalls = w.courierCalls ++ called.flatMap fun attempt => attempt.2.calls attempt.1
  batches : t.batches = w.batches

def recoveredCount (attempts : List (Order × DispatchOutcome)) : Nat := attempts.countP (·.2.isBooked)

inductive Reconcile.Underway (env : Env) (w : World) (rows : List Order) (t : World) : Reconcile → Prop where
  | unsupported {done order rest} (split : rows = done.map Prod.fst ++ order :: rest)
      (own : DispatchOutcome.unsupported.Of env order) (attempted : w.Attempted env done done done t) :
      Underway env w rows t
        (.updateUnsupported order (order.retryCount + 1) rest (recoveredCount done))
  | dispatching {done order adapter rest} (split : rows = done.map Prod.fst ++ order :: rest)
      (own : env.registry.get env.js order.courierPartner = .ok adapter)
      (attempted : w.Attempted env done done done t) :
      Underway env w rows t
        (.createShipment order (order.retryCount + 1) adapter rest (recoveredCount done))
  | answered {done order adapter reply rest} (split : rows = done.map Prod.fst ++ order :: rest)
      (own : (DispatchOutcome.booked adapter reply).Of env order)
      (attempted : w.Attempted env done done (done ++ [(order, .booked adapter reply)]) t) :
      Underway env w rows t
        (.updateCreated order (order.retryCount + 1) reply rest (recoveredCount done))
  | recorded {done order loaded adapter reply rest} (split : rows = done.map Prod.fst ++ order :: rest)
      (same : ∀ now, recoveredEvent env loaded reply now = recoveredEvent env order reply now)
      (attempted : w.Attempted env (done ++ [(order, .booked adapter reply)]) done
        (done ++ [(order, .booked adapter reply)]) t) :
      Underway env w rows t
        (.createEvent loaded (order.retryCount + 1) reply rest (recoveredCount done))
  | caught {done order adapter error rest} (split : rows = done.map Prod.fst ++ order :: rest)
      (own : (DispatchOutcome.refused adapter error).Of env order)
      (attempted : w.Attempted env done done (done ++ [(order, .refused adapter error)]) t) :
      Underway env w rows t
        (.updateCaught order (order.retryCount + 1) error.message rest (recoveredCount done))
  | resolved {done} (split : rows = done.map Prod.fst) (attempted : w.Attempted env done done done t) :
      Underway env w rows t (.resolved (recoveredCount done))

structure World.Queried (w : World) (rows : List Order) : Prop where
  distinct : (rows.map (·.orderId)).Nodup
  stored : ∀ order ∈ rows, w.findOne order.orderId = some order

section
variable {env : Env} {w t t' : World} {order : Order} {outcome : DispatchOutcome} {patch : OrderPatch}
  {now : Int} {rows rest : List Order} {done written noted called : List (Order × DispatchOutcome)}
  {cycle cycle' : Reconcile} {a : Answer} {count n : Nat}

/-! ## Rows -/

theorem Order.write_loaded (mode : UpdateMode) (issued : mode.skips order patch = false) :
    order.write mode now order patch = order.assign now patch := by
  have column {α : Type} [DecidableEq α] (loaded : α) (value : Option α) :
      mode.column loaded value loaded = UpdateMode.named.column loaded value loaded := by
    cases value with
    | none => rfl
    | some value => rw [mode.column_loaded, UpdateMode.column_named]
  unfold assign write
  simp only [column, issued]
  rfl

theorem UpdateMode.skips_counted (mode : UpdateMode) (counted : patch.retryCount = some (order.retryCount + 1)) :
    mode.skips order patch = false := by
  simp [skips, counted]

namespace DispatchOutcome

theorem row_unsupported (mode : UpdateMode) : order.write mode now order
    (unsupportedPatch order (order.retryCount + 1)) = unsupported.row env order now := by
  rw [Order.write_loaded mode (mode.skips_counted rfl)]
  rfl

theorem row_booked (mode : UpdateMode) (adapter : Adapter) (reply : NormalizedCreateOrderResponse) :
    order.write mode now order (createdPatch reply (order.retryCount + 1)) =
      (booked adapter reply).row env order now := by
  rw [Order.write_loaded mode (mode.skips_counted rfl)]
  cases given : reply.rawResponse <;>
    simp [row, createdPatch, Order.assign, Order.write, UpdateMode.skips, given]

theorem row_refused (mode : UpdateMode) (adapter : Adapter) (error : Thrown) :
    order.write mode now order (caughtPatch env (order.retryCount + 1) error.message) =
      (refused adapter error).row env order now := by
  rw [Order.write_loaded mode (mode.skips_counted rfl)]
  rfl

end DispatchOutcome

/-! ## What has been done -/

namespace World.Attempted

theorem refl (env : Env) (w : World) : w.Attempted env [] [] [] w where
  rows attempt mem := absurd mem List.not_mem_nil
  others x _ := rfl
  events := ⟨[], (List.append_nil _).symm, by simp, by simp⟩
  calls := (List.append_nil _).symm
  batches := rfl

theorem record (h : w.Attempted env written noted called t) (outcome : DispatchOutcome) {call : CourierCall}
    (own : outcome.calls order = [call]) :
    w.Attempted env written noted (called ++ [(order, outcome)]) (t.record call) where
  rows := h.rows
  others := h.others
  events := h.events
  calls := by
    rw [World.record_courierCalls, h.calls, List.append_assoc, List.flatMap_append]
    simp [own]
  batches := h.batches

theorem silent (h : w.Attempted env written noted called t) (outcome : DispatchOutcome)
    (own : outcome.calls order = []) :
    w.Attempted env written noted (called ++ [(order, outcome)]) t where
  rows := h.rows
  others := h.others
  events := h.events
  calls := by
    rw [h.calls, List.flatMap_append]
    simp [own]
  batches := h.batches

theorem updateOrder (h : w.Attempted env written noted called t) (outcome : DispatchOutcome)
    (own : outcome.Of env order) (found : w.findOne order.orderId = some order)
    (fresh : order.orderId ∉ written.map (·.1.orderId))
    (row : order.write env.updateMode t.now order patch = outcome.row env order t.now) :
    w.Attempted env (written ++ [(order, outcome)]) noted called (t.updateOrder env order patch) where
  rows attempt mem := by
    rcases List.mem_append.mp mem with earlier | last
    · have apart : attempt.1.orderId ≠ order.orderId := by
        intro same
        rw [← same] at fresh
        exact fresh (List.mem_map_of_mem earlier)
      obtain ⟨registered, updatedAt, there⟩ := h.rows attempt earlier
      refine ⟨registered, updatedAt, ?_⟩
      rw [findOne_updateOrder, if_neg apart]
      exact there
    · cases List.mem_singleton.mp last
      refine ⟨own, t.now, ?_⟩
      rw [findOne_updateOrder, if_pos rfl, h.others _ fresh, found, Option.map_some, row]
  others x outside := by
    rw [List.map_append, List.mem_append, not_or, List.map_singleton, List.mem_singleton] at outside
    rw [findOne_updateOrder, if_neg outside.2]
    exact h.others x outside.1
  events := h.events
  calls := h.calls
  batches := h.batches

theorem note (h : w.Attempted env written noted called t) (outcome : DispatchOutcome)
    (fresh : order.orderId ∉ noted.map (·.1.orderId)) {new : List TrackingEvent}
    (own : outcome.events env order now = new) (about : ∀ event ∈ new, event.orderId = order.orderId)
    (events : t'.events = t.events ++ new) (orders : t'.orders = t.orders)
    (calls : t'.courierCalls = t.courierCalls) (batches : t'.batches = t.batches) :
    w.Attempted env written (noted ++ [(order, outcome)]) called t' where
  rows := by
    unfold findOne
    rw [orders]
    exact h.rows
  others := by
    unfold findOne
    rw [orders]
    exact h.others
  events := by
    obtain ⟨added, same, among, each⟩ := h.events
    refine ⟨added ++ new, ?_, ?_, ?_⟩
    · rw [events, same, List.append_assoc]
    · intro event mem
      rw [List.map_append, List.mem_append, List.map_singleton, List.mem_singleton]
      exact (List.mem_append.mp mem).imp (among event) (about event)
    · intro attempt mem
      rw [List.filter_append]
      rcases List.mem_append.mp mem with earlier | last
      · have none : new.filter (·.orderId = attempt.1.orderId) = [] := by
          apply List.filter_eq_nil_iff.mpr
          intro event there same
          apply fresh
          rw [← about event there, of_decide_eq_true same]
          exact List.mem_map_of_mem earlier
        rw [none, List.append_nil]
        exact each attempt earlier
      · cases List.mem_singleton.mp last
        have none : added.filter (·.orderId = order.orderId) = [] := by
          apply List.filter_eq_nil_iff.mpr
          intro event there same
          exact fresh (of_decide_eq_true same ▸ among event there)
        have all : new.filter (·.orderId = order.orderId) = new := by
          apply List.filter_eq_self.mpr
          intro event there
          exact decide_eq_true (about event there)
        rw [none, all, ← own]
        exact ⟨now, rfl⟩
  calls := calls.trans h.calls
  batches := batches.trans h.batches

theorem quiet (h : w.Attempted env written noted called t) (outcome : DispatchOutcome)
    (fresh : order.orderId ∉ noted.map (·.1.orderId)) (own : outcome.events env order t.now = []) :
    w.Attempted env written (noted ++ [(order, outcome)]) called t :=
  h.note outcome fresh own (List.forall_mem_nil _) (List.append_nil _).symm rfl rfl rfl

theorem createEvent (h : w.Attempted env written noted called t) (adapter : Adapter)
    {reply : NormalizedCreateOrderResponse} (fresh : order.orderId ∉ noted.map (·.1.orderId)) :
    w.Attempted env written (noted ++ [(order, .booked adapter reply)]) called
      (t.createEvent (recoveredEvent env order reply t.now)) := by
  have own : (DispatchOutcome.booked adapter reply).events env order t.now =
      [recoveredEvent env order reply t.now] := rfl
  refine h.note (.booked adapter reply) fresh own ?_ rfl rfl rfl rfl
  intro event mem
  rw [List.mem_singleton.mp mem]
  rfl

end World.Attempted

/-! ## The loop -/

theorem World.Queried.fresh (queried : w.Queried rows) (split : rows = done.map Prod.fst ++ order :: rest) :
    w.findOne order.orderId = some order ∧ order.orderId ∉ done.map (·.1.orderId) := by
  obtain ⟨distinct, stored⟩ := queried
  rw [split] at distinct stored
  refine ⟨stored order (List.mem_append_right _ List.mem_cons_self), fun again => ?_⟩
  rw [List.map_append, List.map_cons, List.nodup_middle, List.nodup_cons, List.mem_append, not_or,
    List.map_map] at distinct
  exact distinct.1.1 again

namespace Reconcile.Underway

theorem nextOrder (split : rows = done.map Prod.fst ++ rest) (attempted : w.Attempted env done done done t) :
    (ReconciliationWorker.nextOrder env (recoveredCount done) rest).Underway env w rows t := by
  cases rest with
  | nil => exact .resolved (split.trans (List.append_nil _)) attempted
  | cons order rest =>
    rw [ReconciliationWorker.nextOrder, reconcileSingleOrder]
    cases registered : env.registry.has env.js order.courierPartner with
    | false => exact .unsupported split registered attempted
    | true =>
      rw [CourierRegistry.has_eq_isOk] at registered
      cases found : env.registry.get env.js order.courierPartner with
      | ok adapter => exact .dispatching split found attempted
      | error unknown =>
        rw [found] at registered
        contradiction

theorem advance (split : rows = done.map Prod.fst ++ order :: rest) (outcome : DispatchOutcome)
    (attempted : w.Attempted env (done ++ [(order, outcome)]) (done ++ [(order, outcome)])
      (done ++ [(order, outcome)]) t) :
    (ReconciliationWorker.nextOrder env (recoveredCount done + outcome.isBooked.toNat) rest).Underway env w
      rows t := by
  have counted : recoveredCount (done ++ [(order, outcome)]) =
      recoveredCount done + outcome.isBooked.toNat := by
    unfold recoveredCount
    rw [List.countP_append, List.countP_singleton]
    cases outcome.isBooked <;> rfl
  rw [← counted]
  apply nextOrder _ attempted
  rw [split, List.map_append, List.append_assoc]
  rfl

theorem next (h : cycle.Underway env w rows t) (queried : w.Queried rows)
    (moved : Moves env t cycle a t' cycle') (answered : ∀ error, a ≠ .dbError error) :
    cycle'.Underway env w rows t' := by
  cases moved with
  | selected result => cases h
  | unsupported =>
    cases h with
    | unsupported split own attempted =>
      obtain ⟨stored, fresh⟩ := queried.fresh split
      have written := attempted.updateOrder .unsupported own stored fresh
        (DispatchOutcome.row_unsupported env.updateMode)
      exact advance split .unsupported ((written.quiet .unsupported fresh rfl).silent .unsupported rfl)
  | booked =>
    cases h with
    | dispatching split own attempted =>
      exact .answered split own (attempted.record (.booked _ _) rfl)
  | refused =>
    cases h with
    | dispatching split own attempted =>
      exact .caught split own (attempted.record (.refused _ _) rfl)
  | recorded =>
    cases h with
    | @answered done order adapter _ rest split own attempted =>
      obtain ⟨stored, fresh⟩ := queried.fresh split
      have written := attempted.updateOrder (.booked adapter _) own stored fresh
        (DispatchOutcome.row_booked env.updateMode adapter _)
      exact .recorded split (fun _ => rfl) written
  | recovered =>
    cases h with
    | @recorded done order loaded adapter _ _ split same attempted =>
      obtain ⟨-, fresh⟩ := queried.fresh split
      rw [same]
      exact advance split (.booked adapter _) (attempted.createEvent adapter fresh)
  | caught =>
    cases h with
    | @caught done order adapter error rest split own attempted =>
      obtain ⟨stored, fresh⟩ := queried.fresh split
      refine advance split (.refused adapter error) ?_
      have written := attempted.updateOrder (.refused adapter error) own stored fresh
        (DispatchOutcome.row_refused env.updateMode adapter error)
      exact written.quiet (.refused adapter error) fresh rfl
  | unsupportedLost error => exact absurd rfl (answered error)
  | recordLost error => exact absurd rfl (answered error)
  | eventLost error => exact absurd rfl (answered error)
  | aborted => exact absurd rfl (answered _)

theorem tick (h : cycle.Underway env w rows t) (now : Int) :
    cycle.Underway env w rows { t with now } := by
  have same {written noted called} (attempted : w.Attempted env written noted called t) :
      w.Attempted env written noted called { t with now } :=
    ⟨attempted.rows, attempted.others, attempted.events, attempted.calls, attempted.batches⟩
  cases h with
  | unsupported split own attempted => exact .unsupported split own (same attempted)
  | dispatching split own attempted => exact .dispatching split own (same attempted)
  | answered split own attempted => exact .answered split own (same attempted)
  | recorded split loaded attempted => exact .recorded split loaded (same attempted)
  | caught split own attempted => exact .caught split own (same attempted)
  | resolved split attempted => exact .resolved split (same attempted)

end Reconcile.Underway

/-! ## The run -/

theorem queried_of_isResult {staleTimestamp : Int} {orderIds : List String}
    (result : isResult env w staleTimestamp orderIds = true) :
    w.Queried (orderIds.filterMap w.findOne) ∧
      (orderIds.filterMap w.findOne).map (·.orderId) = orderIds := by
  refine ⟨⟨selected_distinct result, fun order mem => ?_⟩, ids_of_isResult result⟩
  exact (mem_result mem).2

theorem World.Attempted.cycled (h : w.Attempted env done done done t)
    (queried : w.Queried (done.map Prod.fst)) : w.Cycled env done t where
  returned attempt mem := queried.stored attempt.1 (List.mem_map_of_mem mem)
  registered attempt mem := (h.rows attempt mem).1
  calls := h.calls
  rows attempt mem := (h.rows attempt mem).2
  others := h.others
  events := h.events
  batches := h.batches

theorem World.Attempted.created (h : w.Attempted env done noted called t) :
    recoveredCount done = (done.map (·.1.orderId)).countP fun x =>
      (t.findOne x).any (·.status = .created) := by
  rw [recoveredCount, List.countP_map]
  apply List.countP_congr
  intro attempt mem
  obtain ⟨-, updatedAt, found⟩ := h.rows attempt mem
  simp only [Function.comp_apply, found, Option.any_some, decide_eq_true_eq]
  cases attempt.2 with
  | unsupported => simp [DispatchOutcome.isBooked, DispatchOutcome.row]
  | booked adapter reply => simp [DispatchOutcome.isBooked, DispatchOutcome.row]
  | refused adapter error =>
    simp only [DispatchOutcome.isBooked, DispatchOutcome.row]
    split <;> simp

def State.InCycle (env : Env) (w : World) (rows : List Order) (s : State) (settled : Nat) : Prop :=
  ∃ cycle, s.tasks = [.reconcile cycle] ∧ cycle.Underway env w rows s.world ∧
    settled + cycle.rank ≤ 4 * rows.length

theorem State.InCycle.next {s u : State} {l : Label} (h : s.InCycle env w rows n) (queried : w.Queried rows)
    (alone : s.cycleAlone l = true) (moves : State.Moves env s l u) :
    u.InCycle env w rows (State.noteSettled s l u n) := by
  obtain ⟨cycle, tasks, underway, bound⟩ := h
  cases moves with
  | @settled i a task w' task' awaiting moved =>
    rw [tasks, List.getElem?_singleton] at awaiting
    split at awaiting
    next first =>
      cases awaiting
      have answered (error : Thrown) : a ≠ .dbError error := by
        rintro rfl
        contradiction
      cases moved with
      | @reconcile _ _ _ cycle' moved =>
        refine ⟨cycle', ?_, underway.next queried moved answered, ?_⟩
        · rw [tasks, first]
          rfl
        · have closer := moved.rank answered
          change n + 1 + cycle'.rank ≤ 4 * rows.length
          omega
    next => contradiction
  | ticked ms => exact ⟨cycle, tasks, underway.tick _, bound⟩
  | _ => contradiction

theorem State.InCycle.kept {s : State} {orderIds : List String} (h : s.InCycle env w rows n)
    (queried : w.Queried rows) (same : rows.map (·.orderId) = orderIds) : s.CycleKept env w orderIds := by
  obtain ⟨cycle, tasks, underway, -⟩ := h
  have head : s.tasks[0]? = some (.reconcile cycle) := by
    rw [tasks]
    rfl
  refine ⟨?_, ?_, ?_⟩
  · intro error rejected
    cases head.symm.trans rejected
    cases underway
  · by_cases live : cycle.settled = false
    · right
      let around : Surroundings env := .firstRows (.error (.error "socket hang up"))
      obtain ⟨w', cycle', stepped⟩ := around.step_answer (s := s) live
      refine ⟨around.answer s cycle, ⟨w', s.tasks.set 0 (.reconcile cycle')⟩, ?_, ?_⟩
      · cases answered : around.answer s cycle with
        | dbError error => exact absurd answered (Surroundings.answer_ne_dbError error)
        | _ => rfl
      · simp [platform, State.next, head, Task.step, stepped]
    · left
      cases underway with
      | resolved split attempted => exact ⟨_, head⟩
      | _ => exact absurd rfl live
  · intro count returned
    cases head.symm.trans returned
    cases underway with
    | @resolved done split attempted =>
      subst split
      rw [List.map_map] at same
      refine ⟨done, same, attempted.cycled queried, rfl, ?_⟩
      rw [← same]
      exact attempted.created

end

/-- A cycle on its own whose query has returned these rows, whatever the couriers answer: it attempts each of
them once, does to it what the outcome of the attempt asks for and leaves the others as they were, and
returns the number of those recovered. -/
theorem cycle_attempts_each_row {env : Env} {w : World} {staleTimestamp : Int} {orderIds : List String}
    {s t : State} {settled : Nat}
    (selected : (platform env).next ⟨w, [.reconcile (.findAll staleTimestamp)]⟩ (.settle 0 (.rows orderIds)) =
      some s)
    (ran : ((platform env).observed State.noteSettled).Reaches (fun s l => s.1.cycleAlone l = true)
      (s, 0) (t, settled)) :
    t.CycleKept env w orderIds ∧ settled ≤ 4 * orderIds.length := by
  cases State.Moves.of_next selected with
  | settled awaiting moved =>
    cases awaiting
    cases moved with
    | reconcile moved =>
      cases moved with
      | selected result =>
        obtain ⟨queried, same⟩ := queried_of_isResult result
        have begun : State.InCycle env w (orderIds.filterMap w.findOne)
            ⟨w, [.reconcile (nextOrder env 0 (orderIds.filterMap w.findOne))]⟩ 0 := by
          have short : (nextOrder env 0 (orderIds.filterMap w.findOne)).rank ≤
              4 * (orderIds.filterMap w.findOne).length := nextOrder_rank
          have loop : (nextOrder env (recoveredCount []) (orderIds.filterMap w.findOne)).Underway env w
              (orderIds.filterMap w.findOne) w := .nextOrder rfl (.refl env w)
          exact ⟨_, rfl, loop, by omega⟩
        have inCycle : t.InCycle env w (orderIds.filterMap w.findOne) settled := by
          refine @Machine.Reaches.observed_invariant _ _ _ (fun s l => s.cycleAlone l = true) _ _ _ _ _ _
            (State.InCycle env w (orderIds.filterMap w.findOne)) begun ?_ ran
          intro a l b n h alone moved
          exact h.next queried alone (.of_next moved)
        refine ⟨inCycle.kept queried same, ?_⟩
        obtain ⟨cycle, -, -, bound⟩ := inCycle
        have length : ((orderIds.filterMap w.findOne).map (·.orderId)).length = orderIds.length :=
          congrArg List.length same
        rw [List.length_map] at length
        omega

def waitingOrders : World :=
  { World.empty with now := 100000 }.bulkCreate [OrderService.pendingOrder (parcel "A-1" "mock") 0,
    OrderService.pendingOrder (parcel "A-2" "mock") 0, OrderService.pendingOrder (parcel "A-3" "dhl") 0]

theorem cycle_attempts_each_row_waiting :
    ∃ (t : State) (settled : Nat),
      t.CycleKept (defaultEnv .postgres .named) waitingOrders ["A-1", "A-2", "A-3"] ∧ settled ≤ 4 * 3 ∧
        (t.world.findOne "A-1").any (·.status = .created) ∧
        (t.world.findOne "A-2").any (·.status = .pendingDispatch) ∧
        (t.world.findOne "A-3").any (·.status = .failed) := by
  let rows := ["A-1", "A-2", "A-3"].filterMap waitingOrders.findOne
  let begun : State := ⟨waitingOrders, [.reconcile (nextOrder (defaultEnv .postgres .named) 0 rows)]⟩
  have selected : production.next ⟨waitingOrders, [.reconcile (.findAll 40000)]⟩
    (.settle 0 (.rows ["A-1", "A-2", "A-3"])) = some begun := rfl
  obtain ⟨⟨t, settled⟩, ran, test⟩ := Machine.Reaches.of_run_any (production.observed State.noteSettled)
    (fun s l => s.1.cycleAlone l = true) (begun, 0)
    [.settle 0 (.booked (bookingReply (parcel "A-1" "mock") "MCK1")), .settle 0 .ok, .tick 5, .settle 0 .ok,
      .settle 0 (.refused (.error "timeout")), .settle 0 .ok, .settle 0 .ok]
    (fun s => (s.1.world.findOne "A-1").any (·.status = .created) &&
      (s.1.world.findOne "A-2").any (·.status = .pendingDispatch) &&
      (s.1.world.findOne "A-3").any (·.status = .failed)) (by decide)
  simp only [Bool.and_eq_true, and_assoc] at test
  obtain ⟨kept, bound⟩ := cycle_attempts_each_row selected ran
  exact ⟨t, settled, kept, bound, test⟩

end CourierPlatform
