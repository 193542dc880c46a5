import CourierPlatform.Proofs.Turns

/-! AWBs in the table. No operation takes an AWB away from a row, and no row has a status
past booking without one. -/
namespace CourierPlatform
open Library

/-- A status that a shipment has once it is booked. -/
def ShipmentStatus.isShipped (status : ShipmentStatus) : Bool :=
  !status.isOpen && status ≠ .cancelled

def KeepsAwb (before after : Option Order) : Prop :=
  ∀ row, before = some row →
    ∃ row', after = some row' ∧ (row.awbNumber ≠ none → row'.awbNumber ≠ none)

def HasAwb (row : Option Order) : Prop := ∃ stored, row = some stored ∧ stored.awbNumber ≠ none

def ShippedWithAwb (row : Option Order) : Prop :=
  ∀ stored, row = some stored → stored.status.isShipped = true → stored.awbNumber ≠ none

def OrderPatch.keepsAwb (patch : OrderPatch) : Bool := patch.awbNumber.all Option.isSome

def Task.tracking? : Task → Option Order
  | trackOrder (.trackShipment order _ _) => some order
  | trackOrder (.updateStatus order _) => some order
  | _ => none

section
variable {mode : UpdateMode} {now : Int} {loaded stored : Order} {patch : OrderPatch}
  {row row' row'' : Option Order}

theorem Order.write_keepsAwb (kept : patch.keepsAwb = true)
    (h : stored.awbNumber ≠ none) : (stored.write mode now loaded patch).awbNumber ≠ none := by
  simp only [Order.write]
  cases named : patch.awbNumber with
  | none => exact h
  | some value =>
    rcases mode.column_some loaded.awbNumber value stored.awbNumber with new | ⟨-, old⟩
    · rw [new]
      exact Option.isSome_iff_ne_none.mp (by simpa [OrderPatch.keepsAwb, named] using kept)
    · rw [old]
      exact h

theorem Order.write_namesAwb {awbNumber : String} (named : patch.awbNumber = some (some awbNumber))
    (known : loaded.awbNumber ≠ none → stored.awbNumber ≠ none) :
    (stored.write mode now loaded patch).awbNumber ≠ none := by
  simp only [Order.write, named]
  rcases mode.column_some loaded.awbNumber (some awbNumber) stored.awbNumber with new | ⟨same, old⟩
  · rw [new]
    exact Option.some_ne_none _
  · rw [old]
    exact known (same ▸ Option.some_ne_none _)

namespace KeepsAwb

theorem refl (row : Option Order) : KeepsAwb row row := fun stored here => ⟨stored, here, id⟩

theorem of_none : KeepsAwb none row := fun _ absent => absurd absent.symm (Option.some_ne_none _)

theorem trans (first : KeepsAwb row row') (second : KeepsAwb row' row'') : KeepsAwb row row'' := by
  intro stored here
  obtain ⟨middle, there, kept⟩ := first stored here
  obtain ⟨last, found, kept'⟩ := second middle there
  exact ⟨last, found, fun awb => kept' (kept awb)⟩

theorem write (kept : patch.keepsAwb = true) :
    KeepsAwb row (row.map fun stored => stored.write mode now loaded patch) := by
  rintro stored rfl
  exact ⟨_, rfl, Order.write_keepsAwb kept⟩

theorem hasAwb (kept : KeepsAwb row row') (h : HasAwb row) : HasAwb row' := by
  obtain ⟨stored, here, awb⟩ := h
  obtain ⟨stored', there, keeps⟩ := kept stored here
  exact ⟨stored', there, keeps awb⟩

end KeepsAwb

theorem ShippedWithAwb.write {status : ShipmentStatus} (h : ShippedWithAwb row)
    (named : patch.status = some status) (unshipped : status.isShipped = false)
    (kept : patch.keepsAwb = true) :
    ShippedWithAwb (row.map fun stored => stored.write mode now loaded patch) := by
  rintro _ written shipped
  obtain ⟨stored, here, rfl⟩ := Option.map_eq_some_iff.mp written
  refine Order.write_keepsAwb kept (h stored here ?_)
  simp only [Order.write, named] at shipped
  rcases mode.column_some loaded.status status stored.status with new | ⟨-, old⟩
  · rw [new, unshipped] at shipped
    contradiction
  · rwa [old] at shipped

end

theorem WriteOff.keepsAwb {env : Env} {loaded : Order} {patch : OrderPatch}
    (h : WriteOff env loaded patch) : patch.keepsAwb = true := by
  cases h <;> rfl

theorem ShipmentStatus.not_isShipped {status : ShipmentStatus} (isOpen : status.isOpen = true) :
    status.isShipped = false := by
  rw [isShipped, isOpen]
  rfl

section
variable {env : Env} {now : Int} {x : String} {task : Task} {a : Answer}
  {before after : Option (Stage × Order)} {row row' : Option Order}
  {calls : List (Except Thrown NormalizedCreateOrderResponse)}

theorem Turn.keepsAwb (turn : Turn env now x task a before row after row' calls) :
    KeepsAwb row row' := by
  cases turn with
  | inserted => exact .of_none
  | prePersisted => exact .write rfl
  | saved => exact .write rfl
  | recorded => exact .write rfl
  | writtenOff answer writeOff => exact .write writeOff.keepsAwb
  | tracked => exact .write rfl
  | cancelled => exact .write rfl
  | _ => exact .refl _

theorem Turn.awb_cases (turn : Turn env now x task a before row after row' calls)
    {stored' : Order} {awbNumber : String} (here : row' = some stored')
    (awb : stored'.awbNumber = some awbNumber) :
    ∃ stored, row = some stored ∧ (stored.awbNumber = some awbNumber ∨
      ∃ reply loaded, before = some (.answered reply, loaded) ∧ reply.awbNumber = awbNumber) := by
  have unnamed {loaded : Order} {patch : OrderPatch} (unnamed : patch.awbNumber = none)
      (written : (row.map fun old => old.write env.updateMode now loaded patch) = some stored') :
      ∃ stored, row = some stored ∧ stored.awbNumber = some awbNumber := by
    obtain ⟨old, found, rfl⟩ := Option.map_eq_some_iff.mp written
    simp only [Order.write, unnamed, UpdateMode.column_none] at awb
    exact ⟨old, found, awb⟩
  have named {loaded : Order} {patch : OrderPatch} {issued : String}
      (named : patch.awbNumber = some (some issued))
      (written : (row.map fun old => old.write env.updateMode now loaded patch) = some stored') :
      ∃ stored, row = some stored ∧
        (stored.awbNumber = some awbNumber ∨ issued = awbNumber) := by
    obtain ⟨old, found, rfl⟩ := Option.map_eq_some_iff.mp written
    simp only [Order.write, named] at awb
    rcases env.updateMode.column_some loaded.awbNumber (some issued) old.awbNumber with
      new | ⟨-, left⟩
    · exact ⟨old, found, .inr (Option.some.inj (new.symm.trans awb))⟩
    · exact ⟨old, found, .inl (left.symm.trans awb)⟩
  cases turn with
  | inserted own next =>
    cases here
    contradiction
  | prePersisted =>
    obtain ⟨stored, found, same⟩ := unnamed rfl here
    exact ⟨stored, found, .inl same⟩
  | saved =>
    obtain ⟨stored, found, same⟩ := named rfl here
    exact ⟨stored, found, same.imp_right fun same => ⟨_, _, rfl, same⟩⟩
  | recorded =>
    obtain ⟨stored, found, same⟩ := named rfl here
    exact ⟨stored, found, same.imp_right fun same => ⟨_, _, rfl, same⟩⟩
  | writtenOff answer writeOff =>
    obtain ⟨stored, found, same⟩ := unnamed (by cases writeOff <;> rfl) here
    exact ⟨stored, found, .inl same⟩
  | tracked =>
    obtain ⟨stored, found, same⟩ := unnamed rfl here
    exact ⟨stored, found, .inl same⟩
  | cancelled =>
    obtain ⟨stored, found, same⟩ := unnamed rfl here
    exact ⟨stored, found, .inl same⟩
  | _ => exact ⟨stored', here, .inl awb⟩

theorem Turn.heldAwb (turn : Turn env now x task a before row after row' calls)
    (h : KeepsAwb (before.map Prod.snd) row) : KeepsAwb (after.map Prod.snd) row' := by
  cases turn with
  | read => exact .refl _
  | selected => exact .refl _
  | inserted own next =>
    rcases next with rfl | rfl
    · exact .of_none
    · exact .refl _
  | waited => exact h
  | began => exact h
  | @prePersisted loaded row after orderData answer own next =>
    rcases next with rfl | rfl
    · exact .of_none
    · obtain ⟨stored, here, known⟩ := h loaded rfl
      rintro _ ⟨⟩
      exact ⟨_, by rw [here]; rfl, fun awb => Order.write_keepsAwb rfl (known awb)⟩
  | booked => exact h
  | refused => exact h
  | @recorded loaded row reply nextRetry =>
    obtain ⟨stored, here, known⟩ := h loaded rfl
    rintro _ ⟨⟩
    exact ⟨_, by rw [here]; rfl, fun _ => Order.write_namesAwb rfl known⟩
  | lost => exact h
  | _ => exact .of_none

theorem Turn.shippedWithAwb (turn : Turn env now x task a before row after row' calls)
    (held : KeepsAwb (before.map Prod.snd) row)
    (tracking : ∀ order, task.tracking? = some order → order.orderId = x → HasAwb row)
    (h : ShippedWithAwb row) : ShippedWithAwb row' := by
  have names {loaded : Order} {patch : OrderPatch} {awbNumber : String}
      (known : KeepsAwb (some loaded) row) (named : patch.awbNumber = some (some awbNumber)) :
      ShippedWithAwb (row.map fun stored => stored.write env.updateMode now loaded patch) := by
    rintro _ written -
    obtain ⟨stored, here, rfl⟩ := Option.map_eq_some_iff.mp written
    obtain ⟨other, same, keeps⟩ := known loaded rfl
    cases here.symm.trans same
    exact Order.write_namesAwb named keeps
  cases turn with
  | inserted own next =>
    rintro _ ⟨⟩ shipped
    contradiction
  | prePersisted => exact h.write rfl rfl rfl
  | saved => exact names held rfl
  | recorded => exact names held rfl
  | writtenOff answer writeOff =>
    obtain ⟨status, named, isOpen⟩ := writeOff.status
    exact h.write named (ShipmentStatus.not_isShipped isOpen) writeOff.keepsAwb
  | @tracked row order reply answer tracks own =>
    subst tracks
    obtain ⟨stored, rfl, awb⟩ := tracking order rfl own
    rintro _ ⟨⟩ -
    exact Order.write_keepsAwb rfl awb
  | cancelled => exact h.write rfl rfl rfl
  | _ => exact h

end

section
variable {env : Env} {w w' : World} {task task' : Task} {a : Answer}

theorem Task.Quiet.tracking? {task : Task} (h : task.Quiet) : task.tracking? = none := by
  cases task with
  | trackOrder call => cases call <;> first | rfl | exact h.elim
  | _ => rfl

theorem TrackingService.nextEvent_tracking? (order : Order) (reply : NormalizedTrackingResponse)
    (history : List TrackingEventItem) :
    (Task.trackOrder (nextEvent order reply history)).tracking? = none := by
  cases history <;> rfl

theorem Task.Moves.tracking? (moved : Moves env w task a w' task') {order : Order}
    (tracks : task'.tracking? = some order) :
    task.tracking? = some order ∨
      w.findOne order.orderId = some order ∧ order.awbNumber ≠ none := by
  cases moved with
  | trackOrder moved =>
    cases moved with
    | read found awb =>
      cases tracks
      exact .inr ⟨World.orderId_of_findOne w found ▸ found, awb ▸ Option.some_ne_none _⟩
    | tracked =>
      unfold TrackingService.updateOrderStatusIfChanged at tracks
      split at tracks
      · exact .inl tracks
      · rw [TrackingService.nextEvent_tracking?] at tracks; contradiction
    | statusUpdated => rw [TrackingService.nextEvent_tracking?] at tracks; contradiction
    | eventFound => rw [TrackingService.nextEvent_tracking?] at tracks; contradiction
    | eventAdded => rw [TrackingService.nextEvent_tracking?] at tracks; contradiction
    | _ => contradiction
  | _ => contradiction

end

structure State.AwbsKept (s : State) : Prop where
  wellFormed : s.WellFormed
  held : ∀ task ∈ s.tasks, ∀ x, KeepsAwb ((task.hold? x).map Prod.snd) (s.world.findOne x)
  tracking : ∀ task ∈ s.tasks, ∀ order, task.tracking? = some order →
    HasAwb (s.world.findOne order.orderId)
  shipped : ∀ x, ShippedWithAwb (s.world.findOne x)

namespace State.AwbsKept

variable {env : Env} {s t : State} {l : Label}

theorem keeps (wellFormed : s.WellFormed) (moves : Moves env s l t) (x : String) :
    KeepsAwb (s.world.findOne x) (t.world.findOne x) := by
  cases moves with
  | settled awaiting step =>
    obtain ⟨calls, -, turn⟩ := step.turnsOn (wellFormed.tasks _ (List.mem_of_getElem? awaiting)) x
    exact turn.keepsAwb
  | _ => exact .refl _

theorem next (h : s.AwbsKept) (moved : (platform env).next s l = some t) : t.AwbsKept := by
  have moves := State.Moves.of_next moved
  have kept := keeps h.wellFormed moves
  refine ⟨h.wellFormed.next moved, ?_, ?_, ?_⟩
  · refine moves.forall_tasks_of_quiet
      (fun j task found _ x => (h.held task (List.mem_of_getElem? found) x).trans (kept x))
      (fun task quiet x => by rw [quiet.hold? x]; exact .of_none) ?_
    intro i a task task' _ awaiting step x
    have mem := List.mem_of_getElem? awaiting
    obtain ⟨calls, -, turn⟩ := step.turnsOn (h.wellFormed.tasks task mem) x
    exact turn.heldAwb (h.held task mem x)
  · refine moves.forall_tasks_of_quiet
      (fun j task found _ order tracks =>
        (kept _).hasAwb (h.tracking task (List.mem_of_getElem? found) order tracks))
      (fun task quiet order tracks => by rw [quiet.tracking?] at tracks; contradiction) ?_
    intro i a task task' _ awaiting step order tracks
    rcases step.tracking? tracks with before | ⟨read, awb⟩
    · exact (kept _).hasAwb (h.tracking task (List.mem_of_getElem? awaiting) order before)
    · exact (kept _).hasAwb ⟨order, read, awb⟩
  · cases moves with
    | @settled i a task w' task' awaiting step =>
      intro x
      have mem := List.mem_of_getElem? awaiting
      obtain ⟨calls, -, turn⟩ := step.turnsOn (h.wellFormed.tasks task mem) x
      exact turn.shippedWithAwb (h.held task mem x)
        (fun order tracks own => own ▸ h.tracking task mem order tracks) (h.shipped x)
    | _ => exact h.shipped

theorem of_quiet (h : s.AwbsKept) {tasks : List Task} (quiet : ∀ task ∈ tasks, task.Quiet) :
    State.AwbsKept ⟨s.world, tasks⟩ where
  wellFormed := ⟨h.wellFormed.keyed, fun task mem => (quiet task mem).wellFormed⟩
  held task mem x := by rw [(quiet task mem).hold? x]; exact .of_none
  tracking task mem order tracks := by rw [(quiet task mem).tracking?] at tracks; contradiction
  shipped := h.shipped

theorem init : (State.init .empty).AwbsKept where
  wellFormed := .init .empty
  held _ mem := absurd mem List.not_mem_nil
  tracking _ mem := absurd mem List.not_mem_nil
  shipped x stored found := by simp [State.init, World.empty, World.findOne] at found

theorem of_reaches {allowed : State → Label → Prop}
    (reach : (platform env).Reaches allowed (State.init .empty) s) : s.AwbsKept :=
  reach.invariant State.AwbsKept .init fun _ _ _ inv _ moved => inv.next moved

end State.AwbsKept
end CourierPlatform
