import CourierPlatform.Proofs.Footprint
import CourierPlatform.Proofs.StoredAwb

/-! What holds of the tables in every interleaving of all operations, whatever writes fail, as
long as a courier that accepts a booking issues a usable AWB. -/
namespace CourierPlatform
open Library

def Label.issuesAwb : Label → Bool
  | settle _ (.booked reply) => reply.awbNumber ≠ "" ∧ reply.status = .created
  | _ => true

theorem Task.Quiet.instances {task : Task} (h : task.Quiet) : task.instances = [] := by
  cases task with
  | createOrder call => cases call <;> first | rfl | exact h.elim
  | bulkItem _ _ call => cases call <;> first | rfl | exact h.elim
  | trackOrder call => cases call <;> first | rfl | exact h.elim
  | cancelOrder call => cases call <;> first | rfl | exact h.elim
  | reconcile cycle => cases cycle <;> first | rfl | exact h.elim
  | _ => rfl

/-- The invariant: beside the stored AWBs it speaks of every answer and every instance that a
call in flight carries. -/
structure State.CoreTables (s : State) : Prop where
  awbs : s.AwbsKept
  issued : ∀ x row, s.world.findOne x = some row → row.awbNumber ≠ some ""
  answers : ∀ task ∈ s.tasks, ∀ x reply loaded, task.hold? x = some (.answered reply, loaded) →
    reply.awbNumber ≠ ""
  instances : ∀ task ∈ s.tasks, ∀ order ∈ task.instances, (s.world.findOne order.orderId).isSome
  events : ∀ event ∈ s.world.events, (s.world.findOne event.orderId).isSome

section
variable {env : Env} {s t : State} {l : Label}

theorem KeepsAwb.isSome {before after : Option Order} (kept : KeepsAwb before after)
    (h : before.isSome) : after.isSome := by
  obtain ⟨row, here⟩ := Option.isSome_iff_exists.mp h
  obtain ⟨row', there, -⟩ := kept row here
  exact Option.isSome_iff_exists.mpr ⟨row', there⟩

theorem State.Moves.events (moves : Moves env s l t) : s.world.events <+: t.world.events := by
  cases moves with
  | settled awaiting step =>
    rcases step.events with same | ⟨event, added, -⟩
    · rw [same]
    · exact ⟨[event], added.symm⟩
  | _ => exact List.prefix_rfl

theorem State.CoreTables.next (h : s.CoreTables) (issues : l.issuesAwb = true)
    (moved : (platform env).next s l = some t) : t.CoreTables := by
  have moves := State.Moves.of_next moved
  have kept (x : String) : KeepsAwb (s.world.findOne x) (t.world.findOne x) :=
    State.AwbsKept.keeps h.awbs.wellFormed moves x
  refine ⟨h.awbs.next moved, ?_, ?_, ?_, ?_⟩
  · cases moves with
    | @settled i a task w' task' awaiting step =>
      intro x row stored empty
      have mem := List.mem_of_getElem? awaiting
      obtain ⟨calls, -, turn⟩ := step.turnsOn (h.awbs.wellFormed.tasks task mem) x
      obtain ⟨old, found, same | ⟨reply, loaded, held, same⟩⟩ := turn.awb_cases stored empty
      · exact h.issued x old found same
      · exact h.answers task mem x reply loaded held same
    | _ => exact h.issued
  · refine moves.forall_tasks_of_quiet
      (fun j task found _ => h.answers task (List.mem_of_getElem? found))
      (fun task quiet x reply loaded held => ?_) ?_
    · rw [quiet.hold? x] at held
      contradiction
    · rintro i a task task' rfl awaiting step x reply loaded held
      obtain ⟨calls, -, turn⟩ :=
        step.turnsOn (h.awbs.wellFormed.tasks task (List.mem_of_getElem? awaiting)) x
      rw [held] at turn
      obtain ⟨rfl, -⟩ := turn.answered
      simp only [Label.issuesAwb, Bool.decide_and, Bool.and_eq_true, decide_eq_true_eq] at issues
      exact issues.1
  · refine moves.forall_tasks_of_quiet
      (fun j task found _ order mem =>
        (kept _).isSome (h.instances task (List.mem_of_getElem? found) order mem))
      (fun task quiet order mem => ?_) ?_
    · rw [quiet.instances] at mem
      contradiction
    · rintro i a task task' rfl awaiting step order mem
      rcases step.instances mem with carried | ⟨stored, -⟩
      · obtain ⟨before, mem', same⟩ := List.mem_map.mp carried
        rw [← same]
        exact (kept _).isSome (h.instances task (List.mem_of_getElem? awaiting) before mem')
      · exact stored
  · intro event mem
    have earlier (old : event ∈ s.world.events) : (t.world.findOne event.orderId).isSome :=
      (kept _).isSome (h.events event old)
    cases moves with
    | @settled i a task w' task' awaiting step =>
      rcases step.events with same | ⟨added, grown, carried⟩
      · exact earlier (same ▸ mem)
      · rcases List.mem_append.mp (grown ▸ mem) with old | new
        · exact earlier old
        · obtain ⟨order, mem', same⟩ := List.mem_map.mp carried
          rw [List.mem_singleton.mp new, ← same]
          exact (kept _).isSome (h.instances task (List.mem_of_getElem? awaiting) order mem')
    | _ => exact earlier mem

theorem State.CoreTables.init : (State.init .empty).CoreTables where
  awbs := .init
  issued x row found := by simp [State.init, World.empty, World.findOne] at found
  answers _ mem := absurd mem List.not_mem_nil
  instances _ mem := absurd mem List.not_mem_nil
  events _ mem := absurd mem List.not_mem_nil

theorem State.CoreTables.shipped (h : s.CoreTables) {x : String} {row : Order}
    (stored : s.world.findOne x = some row)
    (status : row.status ∈ [.created, .pickedUp, .inTransit, .delivered]) :
    ∃ awbNumber, row.awbNumber = some awbNumber ∧ awbNumber ≠ "" := by
  have isShipped : row.status.isShipped = true := by
    revert status
    cases row.status <;> decide
  obtain ⟨awbNumber, awb⟩ :=
    Option.ne_none_iff_exists'.mp (h.awbs.shipped x row stored isShipped)
  refine ⟨awbNumber, awb, ?_⟩
  rintro rfl
  exact h.issued x row stored awb

/-- In every run of the platform in which an accepted booking has a nonempty AWB: a row past
booking has a nonempty AWB; an AWB never becomes `NULL` again; the log of events only
grows, and every event belongs to an order that has a row. -/
theorem core_tables
    (reach : (platform env).Reaches (fun _ l => l.issuesAwb = true) (State.init .empty) s)
    (later : (platform env).Reaches (fun _ l => l.issuesAwb = true) s t) :
    (∀ x row, t.world.findOne x = some row →
      row.status ∈ [.created, .pickedUp, .inTransit, .delivered] →
      ∃ awbNumber, row.awbNumber = some awbNumber ∧ awbNumber ≠ "") ∧
    (∀ x row, s.world.findOne x = some row → row.awbNumber ≠ none →
      ∃ row', t.world.findOne x = some row' ∧ row'.awbNumber ≠ none) ∧
    s.world.events <+: t.world.events ∧
    ∀ event ∈ t.world.events, ∃ row, t.world.findOne event.orderId = some row := by
  have tables : s.CoreTables :=
    reach.invariant State.CoreTables .init fun _ _ _ inv issues moved => inv.next issues moved
  obtain ⟨after, kept, grown⟩ := later.invariant
    (fun t => t.CoreTables ∧ (∀ x, KeepsAwb (s.world.findOne x) (t.world.findOne x)) ∧
      s.world.events <+: t.world.events)
    ⟨tables, fun x => .refl _, List.prefix_rfl⟩
    (fun _ _ _ inv issues moved =>
      have moves := State.Moves.of_next moved
      ⟨inv.1.next issues moved,
        fun x => (inv.2.1 x).trans (State.AwbsKept.keeps inv.1.awbs.wellFormed moves x),
        inv.2.2.trans moves.events⟩)
  refine ⟨fun x row stored status => after.shipped stored status, fun x row stored awb => ?_, grown,
    fun event mem => Option.isSome_iff_exists.mp (after.events event mem)⟩
  obtain ⟨row', there, keeps⟩ := kept x row stored
  exact ⟨row', there, keeps awb⟩

end

theorem core_tables_trackedBooking :
    ∃ (s t : State) (row : Order), s.world.findOne "A-1" = some row ∧ row.awbNumber ≠ none ∧
      (∃ row', t.world.findOne "A-1" = some row' ∧ row'.awbNumber ≠ none) ∧
      s.world.events <+: t.world.events := by
  let orderData := parcel "A-1" "mock"
  obtain ⟨s, reach, test⟩ := Machine.Reaches.of_run_any production
    (fun _ l => l.issuesAwb = true) (State.init .empty)
    [.start (.createOrder orderData), .settle 0 .ok, .settle 0 .ok,
      .settle 0 (.booked (bookingReply orderData "MCK1")), .settle 0 .ok]
    (fun s => (s.world.findOne "A-1").any (·.awbNumber.isSome) &&
      ((production.run (fun _ l => l.issuesAwb = true) s
        [.start (.trackOrder "A-1"), .settle 1 .ok,
          .settle 1 (.tracked (trackingReply "A-1" "MCK1" .inTransit)), .settle 1 .ok]).any
        fun _ => true)) (by decide)
  obtain ⟨booked, continues⟩ := Bool.and_eq_true_iff.mp test
  obtain ⟨row, stored, awb⟩ := (Option.any_eq_true _ _).mp booked
  obtain ⟨t, later, -⟩ := Machine.Reaches.of_run_any production _ s _ _ continues
  have kept := core_tables reach later
  have named : row.awbNumber ≠ none := Option.isSome_iff_ne_none.mp awb
  exact ⟨s, t, row, stored, named, kept.2.1 "A-1" row stored named, kept.2.2.1⟩

end CourierPlatform
