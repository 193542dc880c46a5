import CourierPlatform.Library.Ownership
import CourierPlatform.Proofs.Turns
import CourierPlatform.Spec.Booking

/-! The platform follows the booking model as long as attempts on one order do not
overlap. An attempt claims its order from the read, or the insertion, of the row to
its last write. -/
namespace CourierPlatform
open Library Spec Relation

def State.claims (s : State) (x : String) (i : Nat) : Option Stage :=
  claimOf (s.tasks[i]?.bind (Task.hold? x))

def State.unclaimed (s : State) (x : String) : Bool :=
  s.tasks.all fun task => (claimOf (task.hold? x)).isNone

/-- No `createOrder` call reads an open row, and no query of the worker returns a row, that
another call in flight has claimed. -/
def State.noOverlap (s : State) : Label → Bool
  | .settle i .ok =>
    (s.tasks[i]?.bind Task.reads?).all fun x =>
      !(s.world.findOne x).any (·.status.isOpen) || s.unclaimed x
  | .settle _ (.rows orderIds) => orderIds.all s.unclaimed
  | _ => true

def Label.closedReply : Label → Bool
  | settle _ (.booked reply) => !reply.status.isOpen
  | _ => true

namespace State

variable {env : Env} {s t : State} {l : Label} {x : String}

theorem claims_of_unclaimed (h : s.unclaimed x = true) (i : Nat) : s.claims x i = none := by
  unfold claims
  cases found : s.tasks[i]? with
  | none => rfl
  | some task =>
    have free := List.all_eq_true.mp h task (List.mem_of_getElem? found)
    exact Option.isNone_iff_eq_none.mp free

theorem claims_settle {i : Nat} {task task' : Task} (awaiting : s.tasks[i]? = some task)
    (tasks : t.tasks = s.tasks.set i task') :
    t.claims x = Function.update (s.claims x) i (claimOf (task'.hold? x)) := by
  obtain ⟨bound, -⟩ := List.getElem?_eq_some_iff.mp awaiting
  funext j
  by_cases same : j = i
  · subst same
    simp [claims, tasks, List.getElem?_set_self bound]
  · simp [claims, tasks, List.getElem?_set_ne (Ne.symm same), Function.update_of_ne same]

theorem claims_append {tasks : List Task} {w : World} {task : Task} (quiet : task.Quiet) :
    (State.mk w (tasks ++ [task])).claims x = (State.mk w tasks).claims x := by
  funext j
  simp only [claims, List.getElem?_append]
  split
  · rfl
  next beyond =>
    rw [List.getElem?_eq_none (Nat.le_of_not_lt beyond)]
    cases j - tasks.length with
    | zero => simp [quiet.hold? x]
    | succ => rfl

theorem claims_replace {w : World} {i : Nat} {bulk bulk' : BulkOrder}
    (awaiting : s.tasks[i]? = some (.createBulkOrders bulk)) :
    (State.mk w (s.tasks.set i (.createBulkOrders bulk'))).claims x = s.claims x := by
  rw [claims_settle (t := State.mk w (s.tasks.set i (.createBulkOrders bulk'))) awaiting rfl]
  have here : s.claims x i = claimOf ((Task.createBulkOrders bulk').hold? x) := by
    simp only [claims, awaiting]
    rfl
  rw [← here, Function.update_eq_self]

theorem Moves.claims_eq (h : Moves env s l t) (settles : ∀ i a, l ≠ .settle i a)
    (alive : ∀ dead, l ≠ .crash dead) : t.claims x = s.claims x := by
  cases h with
  | started request => exact claims_append (request.start_quiet env s.world.now)
  | settled => exact absurd rfl (settles _ _)
  | itemStarted awaiting =>
    exact (claims_append (Task.startedItem_quiet ..)).trans (claims_replace awaiting)
  | collected awaiting => exact claims_replace awaiting
  | died => exact absurd rfl (alive _)
  | ticked => rfl

end State

/-- What the phase of an order means for its row and for the one call that claims it. -/
inductive Fits (mayReopen : Prop) : Phase → Option Stage → Option Order → Prop where
  | idle {row} (isOpen : ∀ stored, row = some stored → stored.status.isOpen = true) :
      Fits mayReopen .idle none row
  | claimed {stage row} (waits : ∀ reply, stage ≠ .answered reply)
      (isOpen : row.status.isOpen = true) : Fits mayReopen .claimed (some stage) (some row)
  | answered {reply row} (closes : ¬mayReopen → reply.status.isOpen = false)
      (isOpen : row.status.isOpen = true) :
      Fits mayReopen .answered (some (.answered reply)) (some row)
  | booked {row} (closed : row.status.isOpen = false) : Fits mayReopen .booked none (some row)

structure Guarded (mayReopen : Prop) (x : String) (task : Task) (a : Answer)
    (row : Option Order) (held : Option Stage) : Prop where
  faultless : ∀ error, a ≠ .dbError error
  noTracking : ∀ call, task ≠ .trackOrder call
  noCancelling : ∀ call, task ≠ .cancelOrder call
  reads : task.reads? = some x → a = .ok →
    ∀ stored, row = some stored → stored.status.isOpen = true → held = none
  selects : ∀ orderIds, a = .rows orderIds → x ∈ orderIds → held = none
  closes : ¬mayReopen → ∀ reply, a = .booked reply → reply.status.isOpen = false

/-- Every turn of an order is a step of the booking model, or none. -/
theorem Turn.follows {env : Env} {now : Int} {x : String} {task : Task} {a : Answer}
    {before after : Option (Stage × Order)} {row row' : Option Order} {calls}
    {mayReopen : Prop} {phase : Phase} {held : Option Stage} (n : Nat)
    (turn : Turn env now x task a before row after row' calls)
    (guarded : Guarded mayReopen x task a row held) (fits : Fits mayReopen phase held row)
    (mine : ∀ stage, claimOf before = some stage → held = some stage) :
    ∃ phase', ReflGen (Booking.Step mayReopen) ⟨phase, n⟩
        ⟨phase', n + calls.countP Except.isOk⟩ ∧
      Fits mayReopen phase'
        (if claimOf before = none ∧ claimOf after = none then held else claimOf after) row' ∧
      (claimOf before = none → claimOf after ≠ none → held = none) := by
  cases turn with
  | idle => exact ⟨phase, .refl, fits, fun _ taken => absurd rfl taken⟩
  | read reads answer isOpen =>
    have free := guarded.reads reads answer _ rfl isOpen
    subst free
    cases fits with
    | idle => exact ⟨.claimed, .single .claim, .claimed (by simp) isOpen, fun _ _ => rfl⟩
    | booked closed => rw [isOpen] at closed; contradiction
  | selected answer listed pending begins =>
    have free := guarded.selects _ answer listed
    subst free
    cases fits with
    | idle isOpen =>
      refine ⟨.claimed, .single .claim, ?_, fun _ _ => rfl⟩
      rcases begins with rfl | rfl | rfl <;> exact .claimed (by simp) (isOpen _ rfl)
    | booked closed => rw [pending] at closed; contradiction
  | inserted own next =>
    cases fits with
    | idle =>
      rcases next with rfl | rfl
      · refine ⟨.idle, .refl, .idle ?_, fun _ taken => absurd rfl taken⟩
        rintro _ ⟨⟩
        rfl
      · exact ⟨.claimed, .single .claim, .claimed (by simp) rfl, fun _ _ => rfl⟩
  | waited =>
    cases mine .waiting rfl
    exact ⟨phase, .refl, fits, fun free => by contradiction⟩
  | began begins =>
    cases mine .waiting rfl
    cases fits with
    | claimed waits isOpen =>
      refine ⟨.claimed, .refl, ?_, fun free => by contradiction⟩
      rcases begins with rfl | rfl <;> exact .claimed (by simp) isOpen
  | dropped fault => exact absurd fault (guarded.faultless _)
  | prePersisted answer own next =>
    cases mine .updating rfl
    cases fits with
    | claimed waits isOpen =>
      have pendingOpen : ShipmentStatus.pendingDispatch.isOpen = true := rfl
      rcases next with rfl | rfl
      · refine ⟨.idle, .single .abandon, .idle ?_, fun free => by contradiction⟩
        rintro _ ⟨⟩
        exact Order.write_status_isOpen rfl pendingOpen isOpen
      · exact ⟨.claimed, .refl,
          .claimed (by simp) (Order.write_status_isOpen rfl pendingOpen isOpen),
          fun free => by contradiction⟩
  | booked answer =>
    cases mine .dispatching rfl
    cases fits with
    | claimed waits isOpen =>
      exact ⟨.answered, .single .answer,
        .answered (fun no => guarded.closes no _ answer) isOpen, fun free => by contradiction⟩
  | refused =>
    cases mine .dispatching rfl
    cases fits with
    | claimed waits isOpen =>
      exact ⟨.claimed, .refl, .claimed (by simp) isOpen, fun free => by contradiction⟩
  | @saved loaded _ reply answer pending =>
    cases mine (.answered reply) rfl
    cases fits with
    | claimed waits => exact absurd rfl (waits reply)
    | answered closes isOpen =>
      cases status : reply.status.isOpen with
      | false =>
        have other : reply.status ≠ loaded.status :=
          pending ▸ ShipmentStatus.ne_pendingDispatch status
        refine ⟨.booked, .single .record, .booked ?_, fun free => by contradiction⟩
        rw [Order.write_status_of_ne rfl other]
        exact status
      | true =>
        have may : mayReopen := by
          by_contra no
          rw [closes no] at status
          contradiction
        refine ⟨.idle, .single (.reopen may), .idle ?_, fun free => by contradiction⟩
        rintro _ ⟨⟩
        exact Order.write_status_isOpen rfl status isOpen
  | @recorded loaded _ reply nextRetry answer pending =>
    cases mine (.answered reply) rfl
    cases fits with
    | claimed waits => exact absurd rfl (waits reply)
    | answered closes isOpen =>
      refine ⟨.booked, .single .record, .booked ?_, fun free => by contradiction⟩
      rw [Order.write_status_of_ne rfl (by rw [pending]; decide)]
      rfl
  | recovered => exact ⟨phase, .refl, fits, fun _ taken => absurd rfl taken⟩
  | lost fault => exact absurd fault (guarded.faultless _)
  | writtenOff answer writeOff =>
    cases mine .failing rfl
    cases fits with
    | claimed waits isOpen =>
      obtain ⟨status, named, statusOpen⟩ := writeOff.status
      refine ⟨.idle, .single .abandon, .idle ?_, fun free => by contradiction⟩
      rintro _ ⟨⟩
      exact Order.write_status_isOpen named statusOpen isOpen
  | tracked answer tracks => exact absurd tracks (guarded.noTracking _)
  | cancelled answer cancels => exact absurd cancels (guarded.noCancelling _)

theorem World.bookings_append {w w' : World} {x : String} {calls}
    (h : w'.dispatched x = w.dispatched x ++ calls) :
    w'.bookings x = w.bookings x + calls.countP Except.isOk := by
  rw [bookings, h, List.countP_append]
  rfl

structure State.Follows (mayReopen : Prop) (x : String) (s : State) (b : Booking) : Prop where
  wellFormed : s.WellFormed
  dispatching : ∀ task ∈ s.tasks, task.dispatches = true
  bookings : s.world.bookings x = b.bookings
  fits : ∃ held, SoleOwner (s.claims x) held ∧ Fits mayReopen b.phase held (s.world.findOne x)

def State.guarded (mayReopen : Prop) (s : State) (l : Label) : Prop :=
  s.dispatching l = true ∧ s.noOverlap l = true ∧ (¬mayReopen → l.closedReply = true)

section
variable {env : Env} {s t : State} {l : Label} {x : String} {mayReopen : Prop}

theorem State.guarded.turn {i : Nat} {a : Answer} {task : Task} {held : Option Stage}
    (guard : s.guarded mayReopen (.settle i a)) (awaiting : s.tasks[i]? = some task)
    (dispatches : task.dispatches = true) (owner : SoleOwner (s.claims x) held) :
    Guarded mayReopen x task a (s.world.findOne x) held where
  faultless error same := by
    subst same
    exact Bool.noConfusion guard.1
  noTracking call same := by rw [same] at dispatches; contradiction
  noCancelling call same := by rw [same] at dispatches; contradiction
  reads reads same stored found isOpen := by
    subst same
    have free := guard.2.1
    simp only [noOverlap, awaiting, Option.bind_some, reads, Option.all_some, found,
      Option.any_some, isOpen, Bool.not_true, Bool.false_or] at free
    exact owner.eq_none (claims_of_unclaimed free)
  selects orderIds same listed := by
    subst same
    exact owner.eq_none (claims_of_unclaimed (List.all_eq_true.mp guard.2.1 x listed))
  closes no reply same := by
    subst same
    simpa [Label.closedReply] using guard.2.2 no

theorem State.Follows.next {b : Booking} (h : s.Follows mayReopen x b)
    (guard : s.guarded mayReopen l) (moved : (platform env).next s l = some t) :
    ∃ c, ReflGen (Booking.Step mayReopen) b c ∧ t.Follows mayReopen x c := by
  have moves := State.Moves.of_next moved
  have wellFormed := h.wellFormed.next moved
  have dispatching := State.dispatches_next h.dispatching
    (State.dispatchingWithCrashes_of_dispatching guard.1) moves
  obtain ⟨held, owner, fits⟩ := h.fits
  rcases moves.settled_or_quiet with
    ⟨i, a, task, task', rfl, awaiting, step, tasks⟩ | ⟨calls, rows, settles⟩
  · have mem := List.mem_of_getElem? awaiting
    obtain ⟨calls, dispatched, turn⟩ := step.turnsOn (h.wellFormed.tasks task mem) x
    have mine : s.claims x i = claimOf (task.hold? x) := by
      rw [State.claims, awaiting, Option.bind_some]
    obtain ⟨phase, follows, fits', taken⟩ := turn.follows b.bookings
      (guard.turn awaiting (h.dispatching task mem) owner) fits
      fun stage holds => owner.eq_of_holds (mine.trans holds)
    rw [← mine] at fits' taken
    refine ⟨_, follows, wellFormed, dispatching, ?_, _, ?_, fits'⟩
    · rw [World.bookings_append dispatched, h.bookings]
    · rw [State.claims_settle awaiting tasks]
      exact owner.step taken
  · have alive : ∀ dead, l ≠ .crash dead := by
      rintro dead rfl
      exact Bool.noConfusion guard.1
    have bookings : t.world.bookings x = s.world.bookings x := by
      rw [World.bookings, World.dispatched, calls, World.bookings, World.dispatched]
    refine ⟨b, .refl, wellFormed, dispatching, bookings.trans h.bookings, held, ?_, ?_⟩
    · rw [moves.claims_eq settles alive]
      exact owner
    · rw [rows]
      exact fits

def bookingSimulation (env : Env) (mayReopen : Prop) (x : String) :
    Machine.Simulation (platform env) (State.guarded mayReopen) (Booking.Step mayReopen) where
  related := State.Follows mayReopen x
  follows _ _ _ _ related guard moved := related.next guard moved

theorem State.Follows.init {w : World} (keyed : w.WellKeyed) :
    ∃ phase, (State.init w).Follows mayReopen x ⟨phase, w.bookings x⟩ := by
  have owner : SoleOwner ((State.init w).claims x) none := fun i => by
    simp [State.claims, State.init, claimOf]
  have none : ∀ task ∈ (State.init w).tasks, task.dispatches = true :=
    fun _ mem => absurd mem List.not_mem_nil
  cases stored : w.findOne x with
  | none =>
    exact ⟨.idle, .init keyed, none, rfl, _, owner, .idle fun _ found => by
      rw [State.init, stored] at found; contradiction⟩
  | some row =>
    cases status : row.status.isOpen with
    | true =>
      refine ⟨.idle, .init keyed, none, rfl, _, owner, .idle fun _ found => ?_⟩
      rw [State.init, stored] at found
      cases found
      exact status
    | false =>
      refine ⟨.booked, .init keyed, none, rfl, _, owner, ?_⟩
      rw [State.init, stored]
      exact .booked status

end
end CourierPlatform
