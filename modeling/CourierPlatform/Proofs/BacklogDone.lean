import CourierPlatform.Proofs.BacklogDrain

/-! That the worker does work off its backlog. A cycle always has a next step and takes a bounded
number of them, and a backlog that is left becomes stale and is found. -/
namespace CourierPlatform
open Library

def Reconcile.rank : Reconcile → Nat
  | findAll _ => 4 * ReconciliationWorker.batchLimit + 1
  | updateUnsupported _ _ rest _ => 4 * rest.length + 1
  | createShipment _ _ _ rest _ => 4 * rest.length + 4
  | updateCreated _ _ _ rest _ => 4 * rest.length + 3
  | createEvent _ _ _ rest _ => 4 * rest.length + 2
  | updateCaught _ _ _ rest _ => 4 * rest.length + 1
  | _ => 0

section
variable {env : Env} {w w' : World} {s t : State} {l : Label} {a : Answer} {n i count : Nat}
  {cycle cycle' : Reconcile} {orders : List Order} {around : Surroundings env}

theorem nextOrder_rank : (ReconciliationWorker.nextOrder env count orders).rank ≤ 4 * orders.length := by
  cases orders with
  | nil => exact Nat.le_refl _
  | cons order rest =>
    rw [ReconciliationWorker.nextOrder, List.length_cons]
    rcases ReconciliationWorker.reconcileSingleOrder_cases env order rest count with
      ⟨adapter, -, same⟩ | same <;>
      · rw [same, Reconcile.rank]
        omega

theorem ReconciliationWorker.length_le_of_isResult {staleTimestamp : Int} {orderIds : List String}
    (result : isResult env w staleTimestamp orderIds = true) :
    (orderIds.filterMap w.findOne).length ≤ batchLimit := by
  have kept := List.length_filterMap_le w.findOne orderIds
  have limited := (isResult_iff.mp result).2.2
  omega

theorem ReconciliationWorker.Moves.rank (moved : Moves env w cycle a w' cycle')
    (answered : ∀ error, a ≠ .dbError error) : cycle'.rank < cycle.rank := by
  cases moved with
  | selected result =>
    apply Nat.lt_succ_of_le
    apply Nat.le_trans nextOrder_rank
    exact Nat.mul_le_mul_left 4 (length_le_of_isResult result)
  | unsupported => exact Nat.lt_succ_of_le nextOrder_rank
  | booked => exact Nat.lt_succ_self _
  | refused =>
    simp only [Reconcile.rank]
    omega
  | recorded => exact Nat.lt_succ_self _
  | recovered => exact Nat.lt_succ_of_lt (Nat.lt_succ_of_le nextOrder_rank)
  | caught => exact Nat.lt_succ_of_le nextOrder_rank
  | unsupportedLost error => exact absurd rfl (answered error)
  | recordLost error => exact absurd rfl (answered error)
  | eventLost error => exact absurd rfl (answered error)
  | aborted => exact absurd rfl (answered _)

theorem Surroundings.step_answer (live : cycle.settled = false) :
    ∃ w' cycle', ReconciliationWorker.step env s.world cycle (around.answer s cycle) =
      some (w', cycle') := by
  cases cycle with
  | findAll staleTimestamp =>
    refine ⟨s.world, ReconciliationWorker.nextOrder env 0
      ((around.rows s staleTimestamp).filterMap s.world.findOne), ?_⟩
    exact if_pos (around.rows_result s staleTimestamp)
  | createShipment order nextRetry adapter rest count =>
    unfold answer
    cases around.outcome s with
    | ok reply => exact ⟨_, _, rfl⟩
    | error error => exact ⟨_, _, rfl⟩
  | resolved => contradiction
  | rejected => contradiction
  | _ => exact ⟨_, _, rfl⟩

theorem Surroundings.answer_ne_dbError (error : Thrown) : around.answer s cycle ≠ .dbError error := by
  unfold answer
  split
  · exact Answer.noConfusion
  · split <;> exact Answer.noConfusion
  · exact Answer.noConfusion

theorem Surroundings.settle (found : s.tasks[i]? = some (.reconcile cycle))
    (live : cycle.settled = false) :
    ∃ t cycle', (platform env).next s (.settle i (around.answer s cycle)) = some t ∧
      around.drains s (.settle i (around.answer s cycle)) ∧
      t.tasks = s.tasks.set i (.reconcile cycle') ∧
      ReconciliationWorker.Moves env s.world cycle (around.answer s cycle) t.world cycle' := by
  obtain ⟨w', cycle', stepped⟩ := around.step_answer (s := s) live
  refine ⟨⟨w', s.tasks.set i (.reconcile cycle')⟩, cycle', ?_, ⟨?_, ?_⟩, rfl, .of_step stepped⟩
  · change State.next env s (.settle i (around.answer s cycle)) = _
    simp only [State.next, found, Option.bind_eq_bind, Option.bind_some, Task.step, stepped,
      Option.map_some, Prod.map_apply, id_eq]
  · cases answered : around.answer s cycle with
    | dbError error => exact absurd answered (answer_ne_dbError error)
    | _ => rfl
  · intro j a other same there
    obtain ⟨rfl, rfl⟩ := Label.settle.inj same
    cases found.symm.trans there
    rfl

theorem Surroundings.drains_reaches (reach : (platform env).Reaches around.drains s t) :
    (platform env).Reaches (State.drains env · · = true) s t :=
  reach.mono fun _ _ allowed => allowed.1

theorem noteWork_le : n ≤ noteWork s l t n := by
  unfold noteWork
  split
  · exact Nat.le_succ n
  · exact Nat.le_refl n

theorem State.Draining.live (h : s.Draining env w n) (busy : ¬ s.idle = true) :
    ∃ (i : Nat) (cycle : Reconcile),
      s.tasks[i]? = some (.reconcile cycle) ∧ cycle.settled = false := by
  rw [idle, List.all_eq_true] at busy
  push Not at busy
  obtain ⟨task, mem, unsettled⟩ := busy
  obtain ⟨i, found⟩ := List.getElem?_of_mem mem
  rcases h.knows task mem with settled | ⟨cycle, rfl, -⟩
  · exact absurd settled unsettled
  · exact ⟨i, cycle, found, eq_false_of_ne_true unsettled⟩

theorem State.Draining.finishes (around : Surroundings env) (h : s.Draining env w n) :
    ∃ u m, (platform env).Reaches around.drains s u ∧ u.idle = true ∧ u.Draining env w m ∧ n ≤ m := by
  by_cases idle : s.idle = true
  · exact ⟨s, n, .refl, idle, h, Nat.le_refl n⟩
  obtain ⟨i, cycle, found, live⟩ := h.live idle
  induction size : cycle.rank using Nat.strong_induction_on generalizing s n i cycle with
  | h rank ih =>
    obtain ⟨t, cycle', moved, allowed, tasks, step⟩ := around.settle found live
    have fewer := step.rank fun error => around.answer_ne_dbError error
    have after := h.next allowed.1 (.of_next moved)
    have first : (platform env).Reaches around.drains s t := Machine.Reaches.refl.step _ allowed moved
    by_cases ended : t.idle = true
    · exact ⟨t, _, first, ended, after, noteWork_le⟩
    · obtain ⟨j, other, there, unsettled⟩ := after.live ended
      have same : other = cycle' := by
        rw [tasks] at there
        rcases getElem?_set_cases there with ⟨apart, before⟩ | ⟨-, same⟩
        · have settled := h.oneLive.others found live before apart
          exact absurd settled (ne_true_of_eq_false unsettled)
        · exact Task.reconcile.inj same
      subst size same
      obtain ⟨u, m, rest, final, known, more⟩ := ih _ fewer after ended j other there unsettled rfl
      exact ⟨u, m, first.trans rest, final, known, Nat.le_trans noteWork_le more⟩

theorem State.Draining.reaches (h : s.Draining env w n)
    (reach : (platform env).Reaches (State.drains env · · = true) s t) :
    ∃ m, t.Draining env w m := by
  induction reach with
  | refl => exact ⟨n, h⟩
  | step l earlier drains moved ih =>
    obtain ⟨m, known⟩ := ih
    exact ⟨_, known.next drains (.of_next moved)⟩

theorem World.exists_eligible (left : w.backlog env ≠ 0) :
    ∃ row ∈ w.orders.rows, row.eligible env = true := by
  obtain ⟨row, mem, positive⟩ := UniqueTable.exists_of_totalOf_pos (Nat.pos_of_ne_zero left)
  refine ⟨row, mem, ?_⟩
  by_contra ineligible
  rw [Order.attemptsLeft, if_neg ineligible] at positive
  exact Nat.lt_irrefl 0 positive

theorem exists_stale (threshold now : Int) (rows : List Order) :
    ∃ ms : Nat, ∀ row ∈ rows, row.updatedAt < now + ms - threshold := by
  obtain ⟨ms, past⟩ := exists_after (rows.map Order.updatedAt) (now - threshold)
  refine ⟨ms, fun row mem => ?_⟩
  have := past row.updatedAt (List.mem_map_of_mem mem)
  omega

theorem ReconciliationWorker.result_ne_nil {staleTimestamp : Int} {orderIds : List String}
    (result : isResult env w staleTimestamp orderIds = true) {row : Order}
    (mem : row ∈ w.orders.rows) (eligible : row.eligible env = true)
    (stale : row.updatedAt < staleTimestamp) : orderIds ≠ [] := by
  rintro rfl
  have none : w.orders.rows.countP (selects env staleTimestamp) = 0 := by
    have limited := (isResult_iff.mp result).2.2
    rw [List.length_nil, batchLimit] at limited
    omega
  obtain ⟨pending, budget⟩ := Order.eligible_iff.mp eligible
  exact List.countP_eq_zero.mp none row mem (selects_iff.mpr ⟨pending, stale, budget⟩)

theorem State.Draining.rebase (h : s.Draining env w n) : s.Draining env s.world 0 where
  oneLive := h.oneLive
  knows := h.knows
  credit := .inl (Nat.le_of_eq (Nat.zero_add _))
  rows _ row begun := ⟨fun _ => begun, fun eligible => ⟨row, begun, .inr (.inr eligible)⟩⟩

theorem State.not_working (idle : s.idle = true) : ¬ s.Working := by
  rintro ⟨i, cycle, found, holds⟩
  exact holds (Reconcile.settled_toUpdate (settled_of_idle idle found))

theorem State.Draining.within (h : s.Draining env w n) (idle : s.idle = true) :
    n + s.world.backlog env ≤ w.backlog env :=
  h.credit.resolve_right fun working => not_working idle working.1

theorem State.Draining.begins (around : Surroundings env) (h : s.Draining env w n)
    (idle : s.idle = true) (left : s.world.backlog env ≠ 0) :
    ∃ t, (platform env).Reaches around.drains s t ∧ t.Draining env s.world 1 := by
  obtain ⟨row, mem, eligible⟩ := World.exists_eligible left
  obtain ⟨ms, stale⟩ := exists_stale env.staleThresholdMs s.world.now s.world.orders.rows
  let later : World := { s.world with now := s.world.now + ms }
  let staleTimestamp := later.now - env.staleThresholdMs
  let waited : State := ⟨later, s.tasks⟩
  let begun : State := ⟨later, s.tasks ++ [.reconcile (.findAll staleTimestamp)]⟩
  have ticks : around.drains s (.tick ms) := ⟨rfl, fun _ _ _ same => Label.noConfusion same⟩
  have allStale : later.orders.rows.all (Order.isStale env later.now) = true := by
    rw [List.all_eq_true]
    intro other there
    simp [Order.isStale, stale other there, later]
  have starts : around.drains waited (.start .reconcilePendingOrders) :=
    ⟨Bool.and_eq_true_iff.mpr ⟨idle, allStale⟩, fun _ _ _ same => Label.noConfusion same⟩
  have found : begun.tasks[s.tasks.length]? = some (.reconcile (.findAll staleTimestamp)) :=
    List.getElem?_concat_length
  obtain ⟨t, cycle', settles, answers, -, -⟩ := around.settle found rfl
  have toWaited : (platform env).next s (.tick ms) = some waited := rfl
  have toBegun : (platform env).next waited (.start .reconcilePendingOrders) = some begun := rfl
  have known := ((h.rebase.next ticks.1 (.of_next toWaited)).next starts.1 (.of_next toBegun)).next
    answers.1 (.of_next settles)
  refine ⟨t, ((Machine.Reaches.refl.step _ ticks toWaited).step _ starts toBegun).step _ answers
    settles, ?_⟩
  have work := ReconciliationWorker.result_ne_nil (around.rows_result begun staleTimestamp) mem eligible
    (stale row mem)
  obtain ⟨first, others, rows⟩ := List.exists_cons_of_ne_nil work
  have answer : around.answer begun (.findAll staleTimestamp) = .rows (first :: others) := by
    rw [Surroundings.answer, rows]
  rw [answer] at known
  exact known

theorem State.Draining.lowers (around : Surroundings env) (h : s.Draining env w n)
    (idle : s.idle = true) (left : s.world.backlog env ≠ 0) :
    ∃ u, (platform env).Reaches around.drains s u ∧ u.idle = true ∧
      u.world.backlog env < s.world.backlog env := by
  obtain ⟨t, first, working⟩ := h.begins around idle left
  obtain ⟨u, m, rest, final, known, more⟩ := working.finishes around
  have within := known.within final
  exact ⟨u, first.trans rest, final, by omega⟩

theorem State.Draining.clears (around : Surroundings env) (h : s.Draining env w n) :
    ∃ u m, (platform env).Reaches around.drains s u ∧ u.idle = true ∧ u.Draining env w m ∧
      u.world.backlog env = 0 := by
  have progress : ∀ a : State, (a.idle = true ∧ ∃ k, a.Draining env w k) →
      ¬ a.world.backlog env = 0 → ∃ u, (platform env).Reaches around.drains a u ∧
        (u.idle = true ∧ ∃ k, u.Draining env w k) ∧ u.world.backlog env < a.world.backlog env := by
    intro a ⟨idle, k, known⟩ left
    obtain ⟨u, rest, idle', fewer⟩ := known.lowers around idle left
    exact ⟨u, rest, ⟨idle', known.reaches (Surroundings.drains_reaches rest)⟩, fewer⟩
  obtain ⟨t, m, reach, idle, known, -⟩ := h.finishes around
  obtain ⟨u, rest, ⟨idle', k, known'⟩, none⟩ :=
    Machine.Reaches.exists_final (fun t : State => t.world.backlog env) _ _ progress ⟨idle, m, known⟩
  exact ⟨u, k, reach.trans rest, idle', known', none⟩

theorem Order.attemptsLeft_eq_zero {row : Order} (none : w.backlog env = 0)
    {x : String} (found : w.findOne x = some row) : row.eligible env = false := by
  by_contra eligible
  have positive := attemptsLeft_pos (eq_true_of_ne_false eligible)
  have part := World.attemptsLeft_le_backlog env found
  omega

theorem State.Draining.drained (h : s.Draining env w n)
    (none : ∀ x row, s.world.findOne x = some row → row.eligible env = false) :
    w.Drained env s.world := by
  intro x row begun eligible
  obtain ⟨row', found, created | failed | still⟩ := (h.rows x row begun).left eligible
  · exact ⟨row', found, .inl created⟩
  · exact ⟨row', found, .inr failed⟩
  · rw [none x row' found] at still
    contradiction

theorem State.Draining.found_nothing (h : s.Draining env w n)
    (moved : (platform env).next s (.settle i (.rows [])) = some t) {x : String} {row : Order}
    (found : s.world.findOne x = some row) : row.eligible env = false := by
  cases State.Moves.of_next moved with
  | settled awaiting step =>
    obtain ⟨cycle, cycle', rfl, rfl, -, knows, -, progress⟩ :=
      (h.knows _ (List.mem_of_getElem? awaiting)).progress step fun error => Answer.noConfusion
    cases progress with
    | stayed answer orders same => exact absurd rfl (answer [])
    | selected answer before result world rows =>
      cases answer
      have mem := UniqueTable.mem_of_find? found
      by_contra eligible
      have eligible := eq_true_of_ne_false eligible
      have stale := knows.stale _ before row mem eligible
      exact ReconciliationWorker.result_ne_nil result mem eligible stale
        rfl
    | ended answer row world spent => exact Answer.noConfusion answer

end

/-- The worker alone works off its backlog. Whatever rows its queries return and whatever the couriers
answer, no more cycles find work than attempts were left, the rows that it does not select stay as they
were, and once that many cycles are over, or a query finds nothing, every other row is settled. Such a
point can always be reached. -/
theorem backlog_drained {env : Env} {w : World} {t : State} {cycles : Nat}
    (ran : ((platform env).observed noteWork).Reaches (fun s l => s.1.drains env l = true)
      (State.init w, 0) (t, cycles)) :
    cycles ≤ w.backlog env ∧
    (∀ x row, w.findOne x = some row → row.eligible env = false → t.world.findOne x = some row) ∧
    (t.idle = true → cycles = w.backlog env → w.Drained env t.world) ∧
    (∀ i u, (platform env).next t (.settle i (.rows [])) = some u → w.Drained env t.world) ∧
    ∀ around : Surroundings env, ∃ u, (platform env).Reaches around.drains t u ∧ u.idle = true ∧
      w.Drained env u.world := by
  have known := State.draining ran
  refine ⟨known.le_backlog, fun x row begun => (known.rows x row begun).untouched, ?_, ?_, ?_⟩
  · intro idle all
    have within := known.within idle
    have none : t.world.backlog env = 0 := by omega
    exact known.drained fun x row found => Order.attemptsLeft_eq_zero none found
  · intro i u moved
    exact known.drained fun x row found => known.found_nothing moved found
  · intro around
    obtain ⟨u, m, reach, idle, after, none⟩ := known.clears around
    exact ⟨u, reach, idle, after.drained fun x row found => Order.attemptsLeft_eq_zero none found⟩

def waitingParcel : World :=
  World.empty.bulkCreate [OrderService.pendingOrder (parcel "A-1" "mock") 0,
    { OrderService.pendingOrder (parcel "A-2" "mock") 0 with status := .failed }]

theorem backlog_drained_refused : ∃ (t u : State) (row : Order),
    (t.world.findOne "A-1").any (·.retryCount = 1) = true ∧
      t.world.findOne "A-2" = waitingParcel.findOne "A-2" ∧
      u.world.findOne "A-1" = some row ∧ (row.status = .created ∨ row.status = .failed) := by
  obtain ⟨⟨t, cycles⟩, reach, test⟩ := Machine.Reaches.of_run_any (production.observed noteWork)
    (fun s l => s.1.drains (defaultEnv .postgres .named) l = true) (State.init waitingParcel, 0)
    [.tick 60001, .start .reconcilePendingOrders, .settle 0 (.rows ["A-1"]),
      .settle 0 (.refused (.error "timeout")), .settle 0 .ok]
    (fun s => (s.1.world.findOne "A-1").any (·.retryCount = 1)) (by decide)
  obtain ⟨-, untouched, -, -, clears⟩ := backlog_drained reach
  obtain ⟨u, -, -, drained⟩ := clears (.firstRows (.error (.error "timeout")))
  obtain ⟨row, found, settled⟩ := drained "A-1" _ rfl (by decide)
  exact ⟨t, u, row, test, untouched "A-2" _ rfl (by decide), found, settled⟩

end CourierPlatform
