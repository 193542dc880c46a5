import CourierPlatform.Proofs.OwnOrder
import CourierPlatform.Proofs.WorkerCycle

/-! Which rows of a cycle are attempted when writes fail. An error stays inside `reconcileSingleOrder` unless
it is thrown by the update of the `catch` branch, which ends the loop. -/
namespace CourierPlatform
open Library ReconciliationWorker

/-- What a step makes of the row at hand: the cycle stays with it, goes on to the next one, or throws. -/
inductive Reconcile.Onward (env : Env) (cycle : Reconcile) (order : Order) (a : Answer) : Reconcile → Prop where
  | stays {cycle' order'} (current : cycle'.current? = some order') (same : order'.orderId = order.orderId)
      (rest : cycle'.rest = cycle.rest) (calm : cycle.starves a = false) : Onward env cycle order a cycle'
  | next (count : Nat) (calm : cycle.starves a = false) :
      Onward env cycle order a (nextOrder env count cycle.rest)
  | throws {error} (loud : cycle.starves a = !cycle.rest.isEmpty) : Onward env cycle order a (.rejected error)

inductive Reconcile.Accounts (orderIds : List String) (notes : CycleNotes) : Reconcile → Prop where
  | live {cycle order} (current : cycle.current? = some order)
      (split : orderIds = notes.begun ++ cycle.rest.map (·.orderId)) (own : order.orderId ∈ notes.begun)
      (fed : notes.starved = 0) : Accounts orderIds notes cycle
  | resolved {count} (all : orderIds = notes.begun) (fed : notes.starved = 0) :
      Accounts orderIds notes (.resolved count)
  | rejected {error lost} (split : orderIds = notes.begun ++ lost) (starved : lost = [] ↔ notes.starved = 0) :
      Accounts orderIds notes (.rejected error)

section
variable {env : Env} {w w' : World} {s t : State} {l : Label} {a : Answer} {i count : Nat} {order : Order}
  {rest : List Order} {cycle cycle' : Reconcile} {orderIds : List String} {notes : CycleNotes}

theorem ReconciliationWorker.nextOrder_cases (env : Env) (count : Nat) (rows : List Order) :
    rows = [] ∧ nextOrder env count rows = .resolved count ∨
      ∃ order rest, rows = order :: rest ∧ (nextOrder env count rows).current? = some order ∧
        (nextOrder env count rows).rest = rest := by
  cases rows with
  | nil => exact .inl ⟨rfl, rfl⟩
  | cons order rest =>
    right
    refine ⟨order, rest, rfl, ?_⟩
    rw [nextOrder]
    rcases reconcileSingleOrder_cases env order rest count with ⟨adapter, -, same⟩ | same
    · rw [same]
      exact ⟨rfl, rfl⟩
    · rw [same]
      exact ⟨rfl, rfl⟩

theorem Reconcile.onward (current : cycle.current? = some order)
    (stepped : step env w cycle a = some (w', cycle')) : cycle.Onward env order a cycle' := by
  cases cycle with
  | updateUnsupported row nextRetry rest count =>
    cases current
    cases a with
    | ok => cases stepped; exact .next count rfl
    | dbError error => cases stepped; exact .stays rfl rfl rfl rfl
    | _ => contradiction
  | createShipment row nextRetry adapter rest count =>
    cases current
    cases a with
    | booked reply => cases stepped; exact .stays rfl rfl rfl rfl
    | refused error => cases stepped; exact .stays rfl rfl rfl rfl
    | _ => contradiction
  | updateCreated row nextRetry reply rest count =>
    cases current
    cases a with
    | ok => cases stepped; exact .stays rfl rfl rfl rfl
    | dbError error => cases stepped; exact .stays rfl rfl rfl rfl
    | _ => contradiction
  | createEvent row nextRetry reply rest count =>
    cases current
    cases a with
    | ok => cases stepped; exact .next (count + 1) rfl
    | dbError error => cases stepped; exact .stays rfl rfl rfl rfl
    | _ => contradiction
  | updateCaught row nextRetry errorMessage rest count =>
    cases current
    cases a with
    | ok => cases stepped; exact .next count rfl
    | dbError error => cases stepped; exact .throws rfl
    | _ => contradiction
  | _ => contradiction

/-! ## The notes -/

theorem State.currentOrder?_eq (found : s.tasks[i]? = some (.reconcile cycle)) :
    s.currentOrder? i = cycle.current?.map (·.orderId) := by
  rw [currentOrder?, found]

theorem State.starves_eq (found : s.tasks[i]? = some (.reconcile cycle)) :
    s.starves i (.settle i a) = cycle.starves a := by
  simp [starves, found]

namespace Reconcile.Accounts

theorem settle (h : cycle.Accounts orderIds notes) (distinct : orderIds.Nodup)
    (found : s.tasks[i]? = some (.reconcile cycle)) (after : t.tasks[i]? = some (.reconcile cycle'))
    (stepped : step env s.world cycle a = some (w', cycle')) :
    cycle'.Accounts orderIds (State.noteAttempts i s (.settle i a) t notes) := by
  cases h with
  | resolved all fed => cases a <;> contradiction
  | rejected split starved => cases a <;> contradiction
  | @live _ order current split own fed =>
    have before : s.currentOrder? i = some order.orderId := by
      rw [State.currentOrder?_eq found, current]
      rfl
    have later := State.currentOrder?_eq after
    have starved := State.starves_eq (a := a) found
    unfold State.noteAttempts
    rw [before, later, starved]
    cases onward current stepped with
    | stays current' same rest calm =>
      rw [current', Option.map_some, same, if_pos rfl, calm]
      exact .live current' (rest ▸ split) (same.symm ▸ own) fed
    | next count calm =>
      rw [calm]
      rcases nextOrder_cases env count cycle.rest with ⟨none, ended⟩ | ⟨first, rest, more, current', left⟩
      · rw [ended]
        rw [none] at split
        exact .resolved split fed
      · rw [more] at split
        have apart : first.orderId ≠ order.orderId := by
          intro same
          rw [split, List.map_cons, List.nodup_middle, List.nodup_cons] at distinct
          exact distinct.1 (List.mem_append_left _ (same ▸ own))
        rw [current', Option.map_some, if_neg (by simpa using apart)]
        refine .live current' ?_ (List.mem_append_right _ (List.mem_singleton_self _)) fed
        rw [left, split, List.append_assoc]
        rfl
    | throws loud =>
      rw [loud]
      have starved : cycle.rest.map (·.orderId) = [] ↔ notes.starved + (!cycle.rest.isEmpty).toNat = 0 := by
        rw [fed]
        cases cycle.rest <;> simp
      refine .rejected ?_ starved
      rw [split]
      simp [current?]

theorem aside (h : cycle.Accounts orderIds notes) (found : s.tasks[i]? = some (.reconcile cycle))
    (after : t.tasks[i]? = some (.reconcile cycle)) (off : ∀ a, l ≠ .settle i a) :
    cycle.Accounts orderIds (State.noteAttempts i s l t notes) := by
  have same : State.noteAttempts i s l t notes = notes := by
    unfold State.noteAttempts
    rw [State.currentOrder?_eq found, State.currentOrder?_eq after, if_pos rfl]
    have calm : s.starves i l = false := by
      unfold State.starves
      split
      next j a =>
        split
        next =>
          have other : j ≠ i := by
            rintro rfl
            exact off a rfl
          simp [other]
        next => rfl
      next => rfl
    rw [calm]
    rfl
  rw [same]
  exact h

end Reconcile.Accounts

def State.InAttempts (i : Nat) (orderIds : List String) (s : State) (notes : CycleNotes) : Prop :=
  ∃ cycle, s.tasks[i]? = some (.reconcile cycle) ∧ cycle.Accounts orderIds notes

theorem State.InAttempts.next (h : s.InAttempts i orderIds notes) (distinct : orderIds.Nodup)
    (moved : (platform env).next s l = some t) :
    t.InAttempts i orderIds (State.noteAttempts i s l t notes) := by
  obtain ⟨cycle, found, accounts⟩ := h
  by_cases own : ∃ a, l = .settle i a
  · obtain ⟨a, rfl⟩ := own
    obtain ⟨task, w', task', awaiting, stepped, result⟩ := State.next_settle moved
    cases found.symm.trans awaiting
    obtain ⟨⟨w'', cycle'⟩, advanced, same⟩ := Option.map_eq_some_iff.mp stepped
    cases same
    have after : t.tasks[i]? = some (.reconcile cycle') := by
      rw [result]
      exact getElem?_set_of_some found
    exact ⟨cycle', after, accounts.settle distinct found after advanced⟩
  · have off (a : Answer) : l ≠ .settle i a := fun same => own ⟨a, same⟩
    have notBulk (bulk : BulkOrder) : Task.reconcile cycle ≠ .createBulkOrders bulk := Task.noConfusion
    rcases (State.Moves.of_next moved).keeps_task found notBulk off with after | ⟨-, api, -⟩
    · exact ⟨cycle, after, accounts.aside found after off⟩
    · contradiction

theorem State.InAttempts.start {s₀ : State}
    (selected : (platform env).next s₀ (.settle i (.rows orderIds)) = some s) :
    orderIds.Nodup ∧ s.InAttempts i orderIds ⟨(s.currentOrder? i).toList, 0⟩ := by
  obtain ⟨task, w', task', awaiting, stepped, result⟩ := State.next_settle selected
  have moved := Task.Moves.of_step stepped
  cases moved with
  | reconcile moved =>
    cases moved with
    | selected rows =>
      obtain ⟨queried, same⟩ := queried_of_isResult rows
      have found : s.tasks[i]? =
          some (.reconcile (nextOrder env 0 (orderIds.filterMap s₀.world.findOne))) := by
        rw [result]
        exact getElem?_set_of_some awaiting
      refine ⟨same ▸ queried.distinct, _, found, ?_⟩
      rw [State.currentOrder?_eq found]
      rcases nextOrder_cases env 0 (orderIds.filterMap s₀.world.findOne) with
        ⟨none, ended⟩ | ⟨first, rest, more, current, left⟩
      · rw [ended]
        rw [none] at same
        exact .resolved same.symm rfl
      · rw [more] at same
        refine .live current ?_ ?_ rfl
        · rw [current, left]
          exact same.symm
        · rw [current]
          exact List.mem_singleton_self _
  | createOrder moved => cases moved
  | bulkItem moved => cases moved
  | createBulkOrders moved => cases moved
  | trackOrder moved => cases moved
  | cancelOrder moved => cases moved

end

/-- Once a cycle is over, whatever else goes on and whichever operations fail, every row that its query
returned has had its attempt if and only if the update of the `catch` branch has not thrown while rows were
left. -/
theorem rows_attempted_iff {env : Env} {i : Nat} {orderIds : List String} {s₀ s t : State} {notes : CycleNotes}
    (selected : (platform env).next s₀ (.settle i (.rows orderIds)) = some s)
    (ran : ((platform env).observed (State.noteAttempts i)).Reaches (fun _ _ => True)
      (s, ⟨(s.currentOrder? i).toList, 0⟩) (t, notes))
    (ended : t.cycleOver i) : (∀ x ∈ orderIds, x ∈ notes.begun) ↔ notes.starved = 0 := by
  obtain ⟨distinct, begun⟩ := State.InAttempts.start selected
  obtain ⟨cycle, found, accounts⟩ : t.InAttempts i orderIds notes := by
    refine @Machine.Reaches.observed_invariant _ _ _ (fun _ _ => True) _ _ _ _ _ _
      (State.InAttempts i orderIds) begun ?_ ran
    intro a l b notes h _ moved
    exact h.next distinct moved
  obtain ⟨cycle', there, settled⟩ := ended
  cases found.symm.trans there
  cases accounts with
  | live current =>
    cases cycle <;> contradiction
  | resolved all fed =>
    rw [all]
    exact ⟨fun _ => fed, fun _ x mem => mem⟩
  | @rejected error lost split starved =>
    rw [← starved]
    constructor
    · intro attempted
      refine List.eq_nil_iff_forall_not_mem.mpr fun x mem => ?_
      have earlier := attempted x (split ▸ List.mem_append_right _ mem)
      rw [split] at distinct
      exact (List.nodup_append.mp distinct).2.2 x earlier x mem rfl
    · rintro rfl x mem
      rw [split, List.append_nil] at mem
      exact mem

def threeSelected : State :=
  ⟨waitingOrders, [.reconcile (nextOrder (defaultEnv .postgres .named) 0
    (["A-1", "A-2", "A-3"].filterMap waitingOrders.findOne))]⟩

theorem select_three : production.next ⟨waitingOrders, [.reconcile (.findAll 40000)]⟩
    (.settle 0 (.rows ["A-1", "A-2", "A-3"])) = some threeSelected := rfl

def Task.cycleEnded : Task → Bool
  | reconcile cycle => cycle.settled
  | _ => false

theorem State.cycleOver_of_any {s : State} {i : Nat} (h : s.tasks[i]?.any Task.cycleEnded = true) :
    s.cycleOver i := by
  obtain ⟨task, found, ended⟩ := (Option.any_eq_true _ _).mp h
  cases task with
  | reconcile cycle => exact ⟨cycle, found, ended⟩
  | _ => contradiction

theorem rows_attempted_three : ∃ (t : State) (notes : CycleNotes),
    t.cycleOver 0 ∧ notes.starved = 0 ∧ ∀ x ∈ ["A-1", "A-2", "A-3"], x ∈ notes.begun := by
  obtain ⟨⟨t, notes⟩, ran, test⟩ := Machine.Reaches.of_run_any
    (production.observed (State.noteAttempts 0)) (fun _ _ => True) (threeSelected, ⟨["A-1"], 0⟩)
    [.settle 0 (.booked (bookingReply (parcel "A-1" "mock") "MCK1")), .settle 0 (.dbError (.error "deadlock")),
      .settle 0 .ok, .settle 0 (.refused (.error "timeout")), .settle 0 .ok,
      .settle 0 (.dbError (.error "deadlock")), .settle 0 (.dbError (.error "deadlock"))]
    (fun s => s.1.tasks[0]?.any Task.cycleEnded && s.2.starved = 0) (by decide)
  simp only [Bool.and_eq_true, decide_eq_true_eq] at test
  have ended := State.cycleOver_of_any test.1
  exact ⟨t, notes, ended, test.2, (rows_attempted_iff select_three ran ended).mpr test.2⟩

/-- The first booking is refused, and the row cannot be written: the others have no attempt. -/
theorem rows_starved : ¬ ∀ env i orderIds s₀ s t notes,
    (platform env).next s₀ (.settle i (.rows orderIds)) = some s →
    ((platform env).observed (State.noteAttempts i)).Reaches (fun _ _ => True)
      (s, ⟨(s.currentOrder? i).toList, 0⟩) (t, notes) →
    t.cycleOver i → ∀ x ∈ orderIds, x ∈ notes.begun := by
  intro claim
  obtain ⟨⟨t, notes⟩, ran, test⟩ := Machine.Reaches.of_run_any
    (production.observed (State.noteAttempts 0)) (fun _ _ => True) (threeSelected, ⟨["A-1"], 0⟩)
    [.settle 0 (.refused (.error "timeout")), .settle 0 (.dbError (.error "connection terminated"))]
    (fun s => s.1.tasks[0]?.any Task.cycleEnded && s.2.begun = ["A-1"]) (by decide)
  simp only [Bool.and_eq_true, decide_eq_true_eq] at test
  have attempted := claim _ _ _ _ _ t notes select_three ran (State.cycleOver_of_any test.1) "A-2" (by decide)
  rw [test.2] at attempted
  exact absurd attempted (by decide)

end CourierPlatform
