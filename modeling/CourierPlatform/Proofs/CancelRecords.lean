import CourierPlatform.Proofs.CoreTables
import CourierPlatform.Spec.CancelCalls
import CourierPlatform.Spec.Tracking

/-! What `cancelOrder` calls record: the row in one write, the event in another. -/
namespace CourierPlatform
open Js Library

/-- The call is about the order `x`; from when it is sent until the row is written, the row it has loaded
is there and not cancelled. -/
def CancelOrder.Serves (x : String) (w : World) : CancelOrder → Prop
  | .fetchOrder orderId _ => orderId = x
  | .cancelShipment order _ _ =>
    order.orderId = x ∧ order.status ≠ .cancelled ∧ (w.findOne x).isSome
  | .updateCancelled order _ _ =>
    order.orderId = x ∧ order.status ≠ .cancelled ∧ (w.findOne x).isSome
  | .createEvent order _ _ => order.orderId = x ∧ w.MarkedCancelled x
  | _ => True

def Task.CancelsOnly (x : String) (w : World) : Task → Prop
  | cancelOrder call => call.Serves x w
  | crashed => True
  | _ => False

def Label.cancels (x : String) : Label → Prop
  | .start (.cancelOrder orderId _) => orderId = x
  | .settle _ _ => True
  | .crash _ => True
  | .tick _ => True
  | _ => False

section
variable {env : Env} {s t : State} {l : Label} {x : String}

theorem State.firstCancel.cancels (h : s.firstCancel x l) : l.cancels x := by
  cases l with
  | start request => cases request <;> first | exact h.1 | exact h
  | _ => exact h

theorem State.laterCancels.cancels (h : State.laterCancels x l) : l.cancels x := by
  cases l with
  | start request => cases request <;> exact h
  | settle i a => trivial
  | crash dead => exact h.elim
  | _ => exact h

theorem State.laterCancels.sparesRecord (h : State.laterCancels x l) : s.sparesRecord l = true := by
  cases l with
  | settle i a => cases a <;> first | rfl | exact h.elim
  | crash dead => exact h.elim
  | _ => rfl

theorem World.MarkedCancelled.write {w : World} {order : Order} (own : order.orderId = x)
    (notCancelled : order.status ≠ .cancelled) (stored : (w.findOne x).isSome) :
    (w.updateOrder env order CancellationService.cancelledPatch).MarkedCancelled x := by
  obtain ⟨row, stored⟩ := Option.isSome_iff_exists.mp stored
  refine ⟨row.write env.updateMode w.now order CancellationService.cancelledPatch, ?_,
    env.updateMode.column_of_ne notCancelled.symm row.status⟩
  rw [World.findOne_updateOrder_own _ _ own, stored]
  rfl

/-! ## The two writes -/

inductive State.CancelStep (x : String) (s : State) (l : Label) (t : State) : Prop where
  /-- Nothing is written, and a call between the two writes stays there unless a fault hits it. -/
  | reads (row : t.world.findOne x = s.world.findOne x) (events : t.world.events = s.world.events)
      (half : s.sparesRecord l = true → s.tasks.any Task.halfCancelled = true →
        t.tasks.any Task.halfCancelled = true)
  | marks (row : t.world.MarkedCancelled x) (half : t.tasks.any Task.halfCancelled = true)
  | records (row : t.world.findOne x = s.world.findOne x) (recorded : t.world.HasCancellation x)

theorem State.CancelStep.of_moves (only : ∀ task ∈ s.tasks, task.CancelsOnly x s.world)
    (cancels : l.cancels x) (moves : Moves env s l t) : CancelStep x s l t := by
  cases moves with
  | started request =>
    refine .reads rfl rfl fun _ half => ?_
    rw [List.any_append, half, Bool.true_or]
  | @settled i a task w' task' awaiting step =>
    have mine := only task (List.mem_of_getElem? awaiting)
    have goesOn (not : task.halfCancelled = false) : s.tasks.any Task.halfCancelled = true →
        (s.tasks.set i task').any Task.halfCancelled = true := any_set_of_not awaiting not
    cases step with
    | cancelOrder moved =>
      cases moved with
      | committed =>
        obtain ⟨own, notCancelled, stored⟩ := mine
        refine .marks (.write own notCancelled stored) ?_
        have here := List.mem_set (List.getElem?_eq_some_iff.mp awaiting).1
        exact List.any_eq_true.mpr ⟨_, here _, rfl⟩
      | eventAdded =>
        exact .records rfl ⟨_, List.mem_append_right _ List.mem_cons_self, mine.1, rfl⟩
      | failed =>
        refine .reads rfl rfl fun spares => goesOn ?_
        simpa [sparesRecord, awaiting] using spares
      | _ => exact .reads rfl rfl fun _ => goesOn rfl
    | _ => exact mine.elim
  | itemStarted => exact cancels.elim
  | collected => exact cancels.elim
  | died dead =>
    refine .reads rfl rfl fun spares half => ?_
    obtain ⟨task, mem, half⟩ := List.any_eq_true.mp half
    obtain ⟨j, there⟩ := List.getElem?_of_mem mem
    refine List.any_eq_true.mpr ⟨task, List.mem_of_getElem? (i := j) ?_, half⟩
    have alive : j ∉ dead := by
      intro dies
      have := List.all_eq_true.mp spares j dies
      simp [there, half] at this
    rw [List.getElem?_mapIdx, there]
    simp [alive]
  | ticked ms => exact .reads rfl rfl fun _ half => half

theorem State.CancelStep.keeps (h : CancelStep x s l t) :
    ((s.world.findOne x).isSome → (t.world.findOne x).isSome) ∧
      (s.world.MarkedCancelled x → t.world.MarkedCancelled x) := by
  cases h with
  | reads row => exact ⟨fun stored => row ▸ stored, fun marked => by rwa [World.MarkedCancelled, row]⟩
  | marks marked =>
    obtain ⟨row, stored, -⟩ := id marked
    exact ⟨fun _ => Option.isSome_of_eq_some stored, fun _ => marked⟩
  | records row => exact ⟨fun stored => row ▸ stored, fun marked => by rwa [World.MarkedCancelled, row]⟩

theorem Task.CancelsOnly.mono {w w' : World} {task : Task} (h : task.CancelsOnly x w)
    (stored : (w.findOne x).isSome → (w'.findOne x).isSome)
    (marked : w.MarkedCancelled x → w'.MarkedCancelled x) : task.CancelsOnly x w' := by
  cases task with
  | cancelOrder call =>
    cases call with
    | cancelShipment order adapter reason => exact ⟨h.1, h.2.1, stored h.2.2⟩
    | updateCancelled order reply reason => exact ⟨h.1, h.2.1, stored h.2.2⟩
    | createEvent order reply reason => exact ⟨h.1, marked h.2⟩
    | _ => exact h
  | _ => exact h

theorem Task.Moves.cancelsOnly {w w' : World} {task task' : Task} {a : Answer}
    (moved : Moves env w task a w' task') (mine : task.CancelsOnly x w)
    (stored : (w.findOne x).isSome → (w'.findOne x).isSome)
    (marked : w.MarkedCancelled x → w'.MarkedCancelled x) : task'.CancelsOnly x w' := by
  cases moved with
  | cancelOrder moved =>
    cases moved with
    | read found notCancelled =>
      obtain rfl : _ = x := mine
      exact ⟨World.orderId_of_findOne w found, notCancelled, Option.isSome_of_eq_some found⟩
    | agreed => exact ⟨mine.1, mine.2.1, stored mine.2.2⟩
    | committed => exact ⟨mine.1, .write mine.1 mine.2.1 mine.2.2⟩
    | _ => trivial
  | _ => exact mine.elim

theorem State.cancelsOnly_next (only : ∀ task ∈ s.tasks, task.CancelsOnly x s.world)
    (cancels : l.cancels x) (moves : Moves env s l t) :
    ∀ task ∈ t.tasks, task.CancelsOnly x t.world := by
  obtain ⟨stored, marked⟩ := (CancelStep.of_moves only cancels moves).keeps
  intro task mem
  obtain ⟨j, found⟩ := List.getElem?_of_mem mem
  cases moves.came found with
  | kept before => exact (only task (List.mem_of_getElem? before)).mono stored marked
  | started request label =>
    subst label
    cases request <;> exact cancels
  | moved label awaiting step =>
    exact step.cancelsOnly (only _ (List.mem_of_getElem? awaiting)) stored marked
  | item awaiting => exact (only _ (List.mem_of_getElem? awaiting)).elim
  | wentOn awaiting => exact (only _ (List.mem_of_getElem? awaiting)).elim
  | collected awaiting => exact (only _ (List.mem_of_getElem? awaiting)).elim
  | died => trivial

structure State.Recording (x : String) (s : State) : Prop where
  only : ∀ task ∈ s.tasks, task.CancelsOnly x s.world
  recorded : s.world.MarkedCancelled x →
    s.world.HasCancellation x ∨ s.tasks.any Task.halfCancelled = true

theorem State.Recording.next (h : s.Recording x) (cancels : l.cancels x)
    (spares : s.sparesRecord l = true) (moves : Moves env s l t) : t.Recording x where
  only := cancelsOnly_next h.only cancels moves
  recorded marked := by
    cases CancelStep.of_moves h.only cancels moves with
    | reads row events half =>
      rw [World.HasCancellation, events]
      exact (h.recorded (by rwa [World.MarkedCancelled, ← row])).imp id (half spares)
    | marks row half => exact .inr half
    | records row recorded => exact .inl recorded

theorem Task.not_halfCancelled_of_settled {task : Task} (settled : task.settled = true) :
    task.halfCancelled = false := by
  cases task with
  | cancelOrder call => cases call <;> first | rfl | contradiction
  | _ => rfl

theorem State.Recording.idle (h : s.Recording x) (idle : s.idle = true)
    (marked : s.world.MarkedCancelled x) : s.world.HasCancellation x := by
  refine (h.recorded marked).resolve_right fun half => ?_
  obtain ⟨task, mem, half⟩ := List.any_eq_true.mp half
  rw [Task.not_halfCancelled_of_settled (List.all_eq_true.mp idle task mem)] at half
  contradiction

/-! ## An order that is not cancelled any more -/

/-- The order cannot be cancelled, and every call that has not settled is still to find that out. -/
structure State.Closed (x : String) (row : Order) (s : State) : Prop where
  stored : s.world.findOne x = some row
  closed : row.status = .cancelled ∨ row.status = .delivered
  waits : ∀ task ∈ s.tasks, task.settled = true ∨ ∃ reason, task = .cancelOrder (.fetchOrder x reason)

theorem Task.Moves.closed {w w' : World} {task task' : Task} {a : Answer} {row : Order}
    (moved : Moves env w task a w' task') (stored : w.findOne x = some row)
    (closed : row.status = .cancelled ∨ row.status = .delivered)
    (waits : task.settled = true ∨ ∃ reason, task = .cancelOrder (.fetchOrder x reason)) :
    w' = w ∧ task'.settled = true := by
  rcases waits with settled | ⟨reason, rfl⟩
  · rw [moved.unsettled] at settled
    contradiction
  · cases moved with
    | cancelOrder moved =>
      cases moved with
      | read found notCancelled notDelivered =>
        cases found.symm.trans stored
        exact (closed.elim notCancelled notDelivered).elim
      | _ => exact ⟨rfl, rfl⟩

theorem State.Closed.next {row : Order} (h : s.Closed x row) (cancels : l.cancels x)
    (moves : Moves env s l t) : t.Closed x row ∧ t.world.events = s.world.events := by
  have same : t.world.findOne x = s.world.findOne x ∧ t.world.events = s.world.events := by
    cases moves with
    | settled awaiting step =>
      obtain ⟨rfl, -⟩ := step.closed h.stored h.closed (h.waits _ (List.mem_of_getElem? awaiting))
      exact ⟨rfl, rfl⟩
    | _ => exact ⟨rfl, rfl⟩
  refine ⟨⟨same.1.trans h.stored, h.closed, fun task mem => ?_⟩, same.2⟩
  obtain ⟨j, found⟩ := List.getElem?_of_mem mem
  cases moves.came found with
  | kept before => exact h.waits task (List.mem_of_getElem? before)
  | started request label =>
    subst label
    cases request with
    | cancelOrder orderId reason =>
      obtain rfl : orderId = x := cancels
      exact .inr ⟨reason, rfl⟩
    | _ => exact cancels.elim
  | moved label awaiting step =>
    exact .inl (step.closed h.stored h.closed (h.waits _ (List.mem_of_getElem? awaiting))).2
  | item awaiting label => exact (label ▸ cancels : Label.cancels x (.startItem _)).elim
  | wentOn awaiting label => exact (label ▸ cancels : Label.cancels x (.startItem _)).elim
  | collected awaiting => rcases h.waits _ (List.mem_of_getElem? awaiting) with h | ⟨_, h⟩ <;> contradiction
  | died => exact .inl rfl

/-! ## The first call -/

structure State.First (x : String) (s : State) : Prop where
  one : s.tasks.length ≤ 1
  only : ∀ task ∈ s.tasks, task.CancelsOnly x s.world
  recorded : s.world.HasCancellation x → s.tasks ≠ [] ∧ s.idle = true

theorem Task.Moves.recorded {w w' : World} {task task' : Task} {a : Answer}
    (moved : Moves env w task a w' task') (mine : task.CancelsOnly x w)
    (has : w'.HasCancellation x) : w.HasCancellation x ∨ task'.settled = true := by
  cases moved with
  | cancelOrder moved =>
    cases moved with
    | eventAdded => exact .inr rfl
    | _ => exact .inl has
  | _ => exact mine.elim

theorem State.firstCancel.alone {request : Request} (h : s.firstCancel x (.start request)) :
    s.tasks = [] := by
  cases request <;> first | exact h.2 | exact h.elim

theorem State.First.next (h : s.First x) (allowed : s.firstCancel x l) (moves : Moves env s l t) :
    t.First x := by
  refine ⟨?_, cancelsOnly_next h.only allowed.cancels moves, fun has => ?_⟩
  · cases moves with
    | started request => simp [allowed.alone]
    | settled => simpa using h.one
    | itemStarted => exact allowed.elim
    | collected => exact allowed.elim
    | died dead => simpa using h.one
    | ticked ms => exact h.one
  · cases moves with
    | started request => exact absurd allowed.alone (h.recorded has).1
    | @settled i a task w' task' awaiting step =>
      obtain ⟨alone, rfl⟩ := eq_singleton_of_length_le_one h.one awaiting
      rcases step.recorded (h.only task (List.mem_of_getElem? awaiting)) has with before | ended
      · have settled := List.all_eq_true.mp (h.recorded before).2 task (List.mem_of_getElem? awaiting)
        rw [step.unsettled] at settled
        contradiction
      · simp [alone, idle, ended]
    | itemStarted => exact allowed.elim
    | collected => exact allowed.elim
    | died dead =>
      obtain ⟨some, idle⟩ := h.recorded has
      refine ⟨by simpa using some, List.all_eq_true.mpr fun task mem => ?_⟩
      obtain ⟨i, inside, rfl⟩ := List.mem_mapIdx.mp mem
      split
      · rfl
      · exact List.all_eq_true.mp idle _ (List.getElem_mem inside)
    | ticked ms => exact h.recorded has

theorem State.exists_hit (hit : ¬ s.sparesRecord l = true) : ∃ i order reply reason,
    s.tasks[i]? = some (.cancelOrder (.createEvent order reply reason)) ∧
      ((∃ error, l = .settle i (.dbError error)) ∨ ∃ dead, l = .crash dead ∧ i ∈ dead) := by
  have half {i : Nat} (holds : (s.tasks[i]?).any Task.halfCancelled = true) :
      ∃ order reply reason, s.tasks[i]? = some (.cancelOrder (.createEvent order reply reason)) := by
    obtain ⟨task, here, half⟩ := (Option.any_eq_true _ _).mp holds
    cases task with
    | cancelOrder call => cases call <;> first | contradiction | exact ⟨_, _, _, here⟩
    | _ => contradiction
  cases l with
  | settle i a =>
    cases a with
    | dbError error =>
      obtain ⟨order, reply, reason, here⟩ := half (i := i) (by simpa [sparesRecord] using hit)
      exact ⟨i, order, reply, reason, here, .inl ⟨error, rfl⟩⟩
    | _ => exact absurd rfl hit
  | crash dead =>
    simp only [sparesRecord, List.all_eq_true, not_forall] at hit
    obtain ⟨i, dies, hit⟩ := hit
    obtain ⟨order, reply, reason, here⟩ := half (i := i) (by simpa using hit)
    exact ⟨i, order, reply, reason, here, .inr ⟨dead, rfl, dies⟩⟩
  | _ => exact absurd rfl hit

theorem State.First.lost (h : s.First x) (hit : ¬ s.sparesRecord l = true) (moves : Moves env s l t) :
    ∃ row, t.Closed x row ∧ row.status = .cancelled ∧ ¬ t.world.HasCancellation x := by
  obtain ⟨i, order, reply, reason, here, fault⟩ := exists_hit hit
  obtain ⟨alone, rfl⟩ := eq_singleton_of_length_le_one h.one here
  obtain ⟨-, row, stored, cancelled⟩ := h.only _ (List.mem_of_getElem? here)
  have none : ¬ s.world.HasCancellation x := fun has => by
    have settled := List.all_eq_true.mp (h.recorded has).2 _ (List.mem_of_getElem? here)
    contradiction
  have ended : t.world = s.world ∧ t.idle = true := by
    rcases fault with ⟨error, rfl⟩ | ⟨dead, rfl, dies⟩
    · cases moves with
      | settled awaiting step =>
        cases here.symm.trans awaiting
        cases step with
        | cancelOrder moved =>
          cases moved
          exact ⟨rfl, by simp [alone, idle, Task.settled, CancelOrder.settled]⟩
    · cases moves
      exact ⟨rfl, by simp [alone, idle, dies, Task.isApi, Task.settled]⟩
  obtain ⟨same, idle⟩ := ended
  refine ⟨row, ⟨?_, .inl cancelled, ?_⟩, cancelled, ?_⟩
  · rw [same, stored]
  · exact fun task mem => .inl (List.all_eq_true.mp idle task mem)
  · rwa [same]

theorem State.Closed.reaches {allowed : State → Label → Prop} {row : Order} (h : s.Closed x row)
    (cancels : ∀ s l, allowed s l → l.cancels x) (reach : (platform env).Reaches allowed s t) :
    t.Closed x row ∧ t.world.events = s.world.events :=
  reach.invariant (fun t => t.Closed x row ∧ t.world.events = s.world.events) ⟨h, rfl⟩
    fun _ _ _ inv permitted moved => by
      obtain ⟨closed, events⟩ := inv.1.next (cancels _ _ permitted) (.of_next moved)
      exact ⟨closed, events.trans inv.2⟩

theorem World.HasCancellation.reaches {allowed : State → Label → Prop}
    (has : s.world.HasCancellation x) (reach : (platform env).Reaches allowed s t) :
    t.world.HasCancellation x := by
  refine reach.invariant (fun s => s.world.HasCancellation x) has ?_
  rintro a l b ⟨event, mem, own⟩ - moved
  exact ⟨event, (State.Moves.of_next moved).events.subset mem, own⟩

/-- After any first call, and any calls without faults after it, an order that was not cancelled before
and is now has the event, exactly if it had one before or no fault hit the first call between its
two writes. -/
theorem cancellation_recorded_iff {w : World} (notYet : ¬ w.MarkedCancelled x)
    (first : (platform env).Reaches (State.firstCancel x) (.init w) s)
    (later : (platform env).Reaches (fun _ => State.laterCancels x) s t) (idle : t.idle = true) :
    (t.world.MarkedCancelled x → t.world.HasCancellation x) ↔
      w.HasCancellation x ∨
        (platform env).Reaches (fun s l => s.firstCancel x l ∧ s.sparesRecord l = true) (.init w) s := by
  constructor
  · intro property
    rcases first.guarded_or (fun s l => s.sparesRecord l = true) with
      kept | ⟨a, l, b, before, -, hit, moved, rest⟩
    · exact .inr kept
    · refine .inl ?_
      by_contra none
      have start : (State.init w).First x :=
        ⟨Nat.zero_le _, fun task mem => absurd mem List.not_mem_nil, fun has => absurd has none⟩
      have known : a.First x := before.invariant (State.First x) start fun _ _ _ inv permitted moved =>
        inv.next permitted.1 (.of_next moved)
      obtain ⟨row, closed, cancelled, lost⟩ := known.lost hit (.of_next moved)
      obtain ⟨closed, events⟩ := closed.reaches (fun _ _ => State.firstCancel.cancels) rest
      obtain ⟨closed', events'⟩ := closed.reaches (fun _ _ => State.laterCancels.cancels) later
      apply lost
      have has := property ⟨row, closed'.stored, cancelled⟩
      rwa [World.HasCancellation, events', events] at has
  · rintro (before | kept) marked
    · have middle : s.world.HasCancellation x :=
        World.HasCancellation.reaches (show (State.init w).world.HasCancellation x from before) first
      exact middle.reaches later
    · have start : (State.init w).Recording x :=
        ⟨fun task mem => absurd mem List.not_mem_nil, fun marked => absurd marked notYet⟩
      have middle := kept.invariant (State.Recording x) start fun _ _ _ inv permitted moved =>
        inv.next permitted.1.cancels permitted.2 (.of_next moved)
      have last := later.invariant (State.Recording x) middle fun _ _ _ inv permitted moved =>
        inv.next permitted.cancels permitted.sparesRecord (.of_next moved)
      exact last.idle idle marked

/-! ## A refusal -/

theorem State.cancelsWith.cancels {body : Json} (h : s.cancelsWith x body l) : l.cancels x := by
  cases l with
  | start request => cases request <;> first | exact h.1 | exact h
  | settle i a => trivial
  | _ => exact h

theorem exists_cancelled (env : Env) (w : World) (x : String) {row : Order}
    (stored : w.findOne x = some row)
    (partner : env.registry.get env.js row.courierPartner = .ok ⟨"urbanebolt"⟩)
    (notCancelled : row.status ≠ .cancelled) (notDelivered : row.status ≠ .delivered) (body : Json) :
    ∃ t, (platform env).Reaches (State.cancelsWith x body) (.init w) t ∧ t.world.MarkedCancelled x := by
  have own := World.orderId_of_findOne w stored
  have read : CancellationService.afterFetch env x none (w.findOne x) =
      .cancelShipment row ⟨"urbanebolt"⟩ none := by
    simp [CancellationService.afterFetch, CancellationService.checkIfAlreadyCancelled,
      CancellationService.validateCancellableStatus, stored, notCancelled, notDelivered, partner]
  let reply := UrbaneBoltMapper.toNormalizedCancelResponse w.now body (orDefault row.awbNumber "")
    (some row.orderId)
  let called := w.record (.cancelShipment ⟨"urbanebolt"⟩ (orDefault row.awbNumber "") row.orderId none
    (.ok reply))
  have begun : (platform env).Reaches (State.cancelsWith x body) (.init w)
      ⟨w, [.cancelOrder (.fetchOrder x none)]⟩ :=
    Machine.Reaches.refl.step (.start (.cancelOrder x none)) ⟨rfl, rfl⟩ rfl
  have sent : (platform env).Reaches (State.cancelsWith x body) (.init w)
      ⟨w, [.cancelOrder (.cancelShipment row ⟨"urbanebolt"⟩ none)]⟩ := by
    refine begun.step (.settle 0 .ok) ⟨_, rfl, .inl rfl⟩ ?_
    simp [platform, State.next, Task.step, CancellationService.step, read]
  have answered : (platform env).Reaches (State.cancelsWith x body) (.init w)
      ⟨called, [.cancelOrder (.updateCancelled row reply none)]⟩ :=
    sent.step (.settle 0 (.cancelled reply)) ⟨_, rfl, rfl⟩ rfl
  have written : (platform env).Reaches (State.cancelsWith x body) (.init w)
      ⟨called.updateOrder env row CancellationService.cancelledPatch,
        [.cancelOrder (.createEvent (row.assign called.now CancellationService.cancelledPatch) reply none)]⟩ :=
    answered.step (.settle 0 .ok) ⟨_, rfl, .inl rfl⟩ rfl
  exact ⟨_, written, .write own notCancelled (by simp [called, stored])⟩

/-- A refusal leaves the order and its timeline alone exactly if there is none, or if UrbaneBolt is not
asked in the first place. -/
theorem refusal_unrecorded_iff {w : World} {row : Order} (stored : w.findOne x = some row)
    (partner : env.registry.get env.js row.courierPartner = .ok ⟨"urbanebolt"⟩) (body : Json) :
    (refuses body = true → ∀ t, (platform env).Reaches (State.cancelsWith x body) (.init w) t →
      w.Unrecorded x t.world) ↔
      refuses body = false ∨ row.status = .cancelled ∨ row.status = .delivered := by
  constructor
  · intro property
    by_contra asked
    simp only [not_or, Bool.not_eq_false] at asked
    obtain ⟨refused, notCancelled, notDelivered⟩ := asked
    obtain ⟨t, reach, row', stored', cancelled⟩ :=
      exists_cancelled env w x stored partner notCancelled notDelivered body
    have same := (property refused t reach).row
    rw [stored, stored'] at same
    exact notCancelled ((Option.some.inj same).symm.trans cancelled)
  · rintro (agreed | closed) refused t reach
    · rw [agreed] at refused
      contradiction
    · have start : (State.init w).Closed x row := ⟨stored, closed, fun _ mem => absurd mem List.not_mem_nil⟩
      obtain ⟨ended, events⟩ := start.reaches (fun _ _ => State.cancelsWith.cancels) reach
      exact ⟨by rw [ended.stored, stored], events⟩

end

theorem refusal_unrecorded_delivered :
    refuses (.object [("success", .bool false)]) = true ∧
    ∀ t, production.Reaches (State.cancelsWith "A-1" (.object [("success", .bool false)]))
      (.init (World.empty.bulkCreate [{ urbaneBoltOrder with status := .delivered }])) t →
      (World.empty.bulkCreate [{ urbaneBoltOrder with status := .delivered }]).Unrecorded "A-1" t.world :=
  ⟨rfl, (refusal_unrecorded_iff rfl rfl _).mpr (.inr (.inr rfl)) rfl⟩

/-- The courier refuses, and the order is recorded as cancelled. -/
theorem refusal_recorded :
    ¬ ∀ (env : Env) (w : World) (x : String) (row : Order) (body : Json), w.findOne x = some row →
      env.registry.get env.js row.courierPartner = .ok ⟨"urbanebolt"⟩ → refuses body = true →
      ∀ t, (platform env).Reaches (State.cancelsWith x body) (.init w) t → w.Unrecorded x t.world := by
  intro claim
  obtain ⟨t, reach, marked⟩ := exists_cancelled (defaultEnv .postgres .named) urbaneBoltParcel "A-1"
    rfl rfl (by decide) (by decide)
    (.object [("success", .bool false), ("message", .string "Shipment already out for delivery")])
  obtain ⟨row, stored, cancelled⟩ := marked
  have same := (claim _ urbaneBoltParcel "A-1" urbaneBoltOrder _ rfl rfl rfl t reach).row
  rw [stored] at same
  exact absurd (cancelled.symm.trans (Option.some.inj same)) (by decide)

def acceptedCancel (i : Nat) : List Label :=
  [.start (.cancelOrder "A-1" none), .settle i .ok, .settle i (.cancelled (cancelReply "A-1")),
    .settle i .ok, .settle i .ok]

theorem cancellation_recorded_retried : ∃ s t : State,
    production.Reaches (State.firstCancel "A-1") (.init bookedParcel) s ∧
    production.Reaches (fun _ => State.laterCancels "A-1") s t ∧
    t.world.MarkedCancelled "A-1" ∧ t.world.HasCancellation "A-1" := by
  obtain ⟨s, kept, continues⟩ := Machine.Reaches.of_run_any production
    (fun s l => s.firstCancel "A-1" l ∧ s.sparesRecord l = true) (.init bookedParcel)
    ((acceptedCancel 0).take 3 ++ [.settle 0 (.dbError (.error "SQLITE_BUSY"))])
    (fun s : State => (production.run (fun _ => State.laterCancels "A-1") s (acceptedCancel 1)).any fun t : State =>
      t.idle && decide (t.world.MarkedCancelled "A-1")) (by decide)
  obtain ⟨t, ran, test⟩ := (Option.any_eq_true _ _).mp continues
  obtain ⟨idle, marked⟩ := Bool.and_eq_true_iff.mp test
  have first : production.Reaches (State.firstCancel "A-1") (.init bookedParcel) s :=
    kept.mono fun s l permitted => permitted.1
  have later := Machine.Reaches.of_run _ ran
  have cancelled : t.world.MarkedCancelled "A-1" := of_decide_eq_true marked
  exact ⟨s, t, first, later, cancelled,
    (cancellation_recorded_iff (by decide) first later idle).mpr (.inr kept) cancelled⟩

/-- The event is not written, and every later call finds the order cancelled already. -/
theorem cancellation_never_recorded :
    ¬ ∀ (env : Env) (w : World) (x : String) (s t : State), ¬ w.MarkedCancelled x →
      (platform env).Reaches (State.firstCancel x) (.init w) s → s.idle = true →
      (platform env).Reaches (fun _ => State.laterCancels x) s t → t.idle = true →
      t.world.MarkedCancelled x → t.world.HasCancellation x := by
  intro claim
  obtain ⟨s, first, continues⟩ := Machine.Reaches.of_run_any production (State.firstCancel "A-1")
    (.init bookedParcel) ((acceptedCancel 0).take 4 ++ [.settle 0 (.dbError (.error "SQLITE_BUSY"))])
    (fun s : State => s.idle && (production.run (fun _ => State.laterCancels "A-1") s
      ((acceptedCancel 1).take 2)).any fun t : State => t.idle && decide (t.world.MarkedCancelled "A-1" ∧
        ¬ t.world.HasCancellation "A-1")) (by decide)
  obtain ⟨ended, continues⟩ := Bool.and_eq_true_iff.mp continues
  obtain ⟨t, ran, test⟩ := (Option.any_eq_true _ _).mp continues
  obtain ⟨idle, outcome⟩ := Bool.and_eq_true_iff.mp test
  obtain ⟨marked, none⟩ := of_decide_eq_true outcome
  exact none (claim _ bookedParcel "A-1" s t (by decide) first ended (.of_run _ ran) idle marked)

end CourierPlatform
