import CourierPlatform.Model.UrbaneBoltMapper
import CourierPlatform.Proofs.Sequential
import CourierPlatform.Proofs.Turns

/-! When a booked order is booked again. Operations that run one after the other never
interfere, but the status is all they look at: an order that tracking has moved to
`FAILED` looks like one whose booking was refused. -/
namespace CourierPlatform
open Library

/-- No `createOrder` call reads an open row, and no query of the worker returns a row, that
already has an AWB. -/
def State.noRebooking (s : State) : Label → Bool
  | .settle i .ok =>
    (s.tasks[i]?.bind Task.reads?).all fun x =>
      !(s.world.findOne x).any fun row => row.status.isOpen && row.awbNumber.isSome
  | .settle _ (.rows orderIds) =>
    orderIds.all fun x => !(s.world.findOne x).any (·.awbNumber.isSome)
  | _ => true

def State.booksOnce (s : State) (l : Label) : Prop :=
  s.sequentialFaultless l ∧ s.noRebooking l = true

instance (s : State) (l : Label) : Decidable (s.booksOnce l) :=
  inferInstanceAs (Decidable (_ ∧ _))

structure FreshlyClaimed (x : String) (task : Task) (a : Answer) (row : Option Order) : Prop where
  faultless : ∀ error, a ≠ .dbError error
  reads : task.reads? = some x → a = .ok → ∀ stored, row = some stored →
    stored.status.isOpen = true → stored.awbNumber = none
  selects : ∀ orderIds, a = .rows orderIds → x ∈ orderIds → ∀ stored, row = some stored →
    stored.awbNumber = none

def Unbooked (row : Option Order) : Prop := ∃ stored, row = some stored ∧ stored.awbNumber = none

section
variable {env : Env} {now : Int} {x : String} {task : Task} {a : Answer}
  {before after : Option (Stage × Order)} {row row' : Option Order}
  {calls : List (Except Thrown NormalizedCreateOrderResponse)}

theorem Unbooked.write {mode : UpdateMode} {loaded : Order} {patch : OrderPatch}
    (h : Unbooked row) (unnamed : patch.awbNumber = none) :
    Unbooked (row.map fun stored => stored.write mode now loaded patch) := by
  obtain ⟨stored, rfl, none⟩ := h
  exact ⟨_, rfl, by simp only [Order.write, unnamed, UpdateMode.column_none, none]⟩

theorem Turn.unbooked (turn : Turn env now x task a before row after row' calls)
    (fresh : FreshlyClaimed x task a row) (known : claimOf before ≠ none → Unbooked row)
    (claims : claimOf after ≠ none) : Unbooked row' := by
  have claimed {held : Stage × Order} (h : held.1.claims = true) :
      claimOf (some held) ≠ none := by
    simp [claimOf, h]
  cases turn with
  | read reads answer isOpen => exact ⟨_, rfl, fresh.reads reads answer _ rfl isOpen⟩
  | selected answer listed => exact ⟨_, rfl, fresh.selects _ answer listed _ rfl⟩
  | inserted own next => exact ⟨_, rfl, rfl⟩
  | waited => exact known (claimed rfl)
  | began => exact known (claimed rfl)
  | prePersisted => exact (known (claimed rfl)).write rfl
  | booked => exact known (claimed rfl)
  | refused => exact known (claimed rfl)
  | lost fault => exact absurd fault (fresh.faultless _)
  | idle => exact absurd rfl claims
  | dropped => exact absurd rfl claims
  | saved => exact absurd rfl claims
  | recorded => exact absurd rfl claims
  | recovered => exact absurd rfl claims
  | writtenOff => exact absurd rfl claims
  | tracked => exact absurd rfl claims
  | cancelled => exact absurd rfl claims

theorem Turn.booked_stays {stored : Order} {awbNumber : String}
    (turn : Turn env now x task a before (some stored) after row' calls)
    (fresh : FreshlyClaimed x task a (some stored)) (free : claimOf before = none)
    (awb : stored.awbNumber = some awbNumber) :
    claimOf after = none ∧
      (∃ stored', row' = some stored' ∧ stored'.awbNumber = some awbNumber) ∧ calls = [] := by
  have booked : ¬stored.awbNumber = none := by rw [awb]; exact Option.some_ne_none _
  cases turn with
  | idle => exact ⟨rfl, ⟨stored, rfl, awb⟩, rfl⟩
  | recovered => exact ⟨rfl, ⟨stored, rfl, awb⟩, rfl⟩
  | tracked => exact ⟨rfl, ⟨_, rfl, awb⟩, rfl⟩
  | cancelled => exact ⟨rfl, ⟨_, rfl, awb⟩, rfl⟩
  | read reads answer isOpen => exact absurd (fresh.reads reads answer _ rfl isOpen) booked
  | selected answer listed => exact absurd (fresh.selects _ answer listed _ rfl) booked
  | dropped fault => exact absurd fault (fresh.faultless _)
  | lost fault => exact absurd fault (fresh.faultless _)
  | _ => exact absurd free (by simp [claimOf, Stage.claims])

end

def Task.ClaimsUnbooked (w : World) (task : Task) : Prop :=
  ∀ x, claimOf (task.hold? x) ≠ none → Unbooked (w.findOne x)

structure State.BooksOnce (s : State) : Prop where
  wellFormed : s.WellFormed
  oneLive : s.OneLive
  claims : ∀ task ∈ s.tasks, task.ClaimsUnbooked s.world

structure State.Booked (x awbNumber : String) (s : State) : Prop where
  row : ∃ row, s.world.findOne x = some row ∧ row.awbNumber = some awbNumber
  free : ∀ task ∈ s.tasks, claimOf (task.hold? x) = none

section
variable {env : Env} {s t : State} {l : Label} {x awbNumber : String}

theorem State.booksOnce.turn {i : Nat} {a : Answer} {task : Task}
    (guard : s.booksOnce (.settle i a)) (awaiting : s.tasks[i]? = some task) (x : String) :
    FreshlyClaimed x task a (s.world.findOne x) where
  faultless error same := by
    subst same
    exact Bool.noConfusion guard.1.2
  reads reads same stored found isOpen := by
    subst same
    have fresh := guard.2
    simp only [noRebooking, awaiting, Option.bind_some, reads, Option.all_some, found,
      Option.any_some, isOpen, Bool.true_and, Bool.not_eq_true', Option.isSome_eq_false_iff,
      Option.isNone_iff_eq_none] at fresh
    exact fresh
  selects orderIds same listed stored found := by
    subst same
    have fresh := List.all_eq_true.mp guard.2 x listed
    simpa [found] using fresh

theorem State.BooksOnce.next (h : s.BooksOnce) (guard : s.booksOnce l)
    (moved : (platform env).next s l = some t) : t.BooksOnce := by
  have moves := State.Moves.of_next moved
  refine ⟨h.wellFormed.next moved, h.oneLive.next guard.1.1 moves, ?_⟩
  refine h.oneLive.forall_tasks h.claims ?_ (fun _ _ _ known => known) ?_ ?_ guard.1.1 moves
  · intro w task settled x claims
    rw [Task.hold?_of_settled settled] at claims
    exact absurd rfl claims
  · intro request _ x claims
    rw [(request.start_quiet env s.world.now).hold? x] at claims
    exact absurd rfl claims
  · rintro i a task w' task' rfl awaiting step known x claims
    obtain ⟨calls, -, turn⟩ :=
      step.turnsOn (h.wellFormed.tasks task (List.mem_of_getElem? awaiting)) x
    exact turn.unbooked (guard.turn awaiting x) (known x) claims

theorem State.Booked.next (h : s.Booked x awbNumber) (wellFormed : s.WellFormed)
    (guard : s.booksOnce l) (moved : (platform env).next s l = some t) :
    t.Booked x awbNumber ∧ t.world.dispatched x = s.world.dispatched x := by
  obtain ⟨row, stored, awb⟩ := h.row
  obtain ⟨free, row', same⟩ := (State.Moves.of_next moved).keeps_order (claimOf · = none)
    (fun row => ∃ stored, row = some stored ∧ stored.awbNumber = some awbNumber) wellFormed rfl
    h.free h.row fun i a task after row' calls same awaiting _ turn => by
      subst same
      have fresh := guard.turn awaiting x
      rw [stored] at turn fresh
      exact turn.booked_stays fresh (h.free task (List.mem_of_getElem? awaiting)) awb
  exact ⟨⟨row', free⟩, same⟩

theorem State.BooksOnce.init {w : World} (keyed : w.WellKeyed) : (State.init w).BooksOnce :=
  ⟨.init keyed, .of_idle rfl, fun _ mem => absurd mem List.not_mem_nil⟩

/-- Once an order has an AWB, operations that run one at a time keep it and never dispatch the
order again, if no `createOrder` call reads and no worker query returns a row that is
`FAILED` or `PENDING_DISPATCH` and has an AWB. -/
theorem booked_once {w : World} {row : Order} (keyed : w.WellKeyed)
    (first : (platform env).Reaches State.booksOnce (State.init w) s)
    (stored : s.world.findOne x = some row) (awb : row.awbNumber = some awbNumber)
    (later : (platform env).Reaches State.booksOnce s t) :
    (∃ row', t.world.findOne x = some row' ∧ row'.awbNumber = some awbNumber) ∧
      t.world.dispatched x = s.world.dispatched x ∧
      ∀ task ∈ t.tasks, ∀ order, task.hold? x ≠ some (.dispatching, order) := by
  have known : s.BooksOnce :=
    first.invariant State.BooksOnce (.init keyed) fun _ _ _ inv guard moved =>
      inv.next guard moved
  have booked : s.Booked x awbNumber := by
    refine ⟨⟨row, stored, awb⟩, fun task mem => ?_⟩
    by_contra claimed
    obtain ⟨other, same, none⟩ := known.claims task mem x claimed
    rw [stored] at same
    cases same
    rw [awb] at none
    contradiction
  have kept : t.BooksOnce ∧ t.Booked x awbNumber ∧
      t.world.dispatched x = s.world.dispatched x :=
    later.invariant (fun r => r.BooksOnce ∧ r.Booked x awbNumber ∧
        r.world.dispatched x = s.world.dispatched x)
      ⟨known, booked, rfl⟩ fun _ _ _ inv guard moved => by
        obtain ⟨stays, same⟩ := inv.2.1.next inv.1.wellFormed guard moved
        exact ⟨inv.1.next guard moved, stays, same.trans inv.2.2⟩
  refine ⟨kept.2.1.row, kept.2.2, fun task mem order held => ?_⟩
  have free := kept.2.1.free task mem
  rw [held] at free
  contradiction

end

def trackedResubmission (rawStatus : String) : List Label :=
  let orderData := parcel "A-1" "urbanebolt"
  let status := UrbaneBoltMapper.mapStatus .ascii rawStatus
  [.start (.createOrder orderData), .settle 0 .ok, .settle 0 .ok,
    .settle 0 (.booked (bookingReply orderData "UB1")), .settle 0 .ok, .start (.trackOrder "A-1"),
    .settle 1 .ok, .settle 1 (.tracked (trackingReply "A-1" "UB1" status)), .settle 1 .ok,
    .start (.createOrder orderData), .settle 2 .ok]

theorem booked_once_trackedResubmission :
    ∃ s t : State, (s.world.findOne "A-1").any (·.awbNumber = some "UB1") = true ∧
      (∃ row', t.world.findOne "A-1" = some row' ∧ row'.awbNumber = some "UB1") ∧
      t.world.dispatched "A-1" = s.world.dispatched "A-1" ∧
      ∀ task ∈ t.tasks, ∀ order, task.hold? "A-1" ≠ some (.dispatching, order) := by
  obtain ⟨s, first, test⟩ := Machine.Reaches.of_run_any production State.booksOnce
    (State.init .empty) ((trackedResubmission "Delivered").take 5)
    (fun s => (s.world.findOne "A-1").any (·.awbNumber = some "UB1") &&
      (production.run State.booksOnce s ((trackedResubmission "Delivered").drop 5)).isSome)
    (by decide)
  obtain ⟨booked, continues⟩ := Bool.and_eq_true_iff.mp test
  obtain ⟨row, stored, awb⟩ := (Option.any_eq_true _ _).mp booked
  obtain ⟨t, ran⟩ := Option.isSome_iff_exists.mp continues
  exact ⟨s, t, booked, booked_once .empty first stored (by simpa using awb)
    (.of_run ((trackedResubmission "Delivered").drop 5) ran)⟩

/-- A parcel on its way back to the sender counts as `FAILED`, and submitting the request again
books it again, under another AWB. -/
theorem rebooked_after_return :
    ¬ ∀ env w s t x row awbNumber, World.WellKeyed w →
      (platform env).Reaches State.sequentialFaultless (State.init w) s →
      s.world.findOne x = some row → row.awbNumber = some awbNumber →
      (platform env).Reaches State.sequentialFaultless s t →
      (∃ row', t.world.findOne x = some row' ∧ row'.awbNumber = some awbNumber) ∧
        t.world.dispatched x = s.world.dispatched x ∧
        ∀ task ∈ t.tasks, ∀ order, task.hold? x ≠ some (.dispatching, order) := by
  intro claim
  let rebooking : List Label :=
    [.settle 2 .ok, .settle 2 (.booked (bookingReply (parcel "A-1" "urbanebolt") "UB2")),
      .settle 2 .ok]
  obtain ⟨s, first, test⟩ := Machine.Reaches.of_run_any production State.sequentialFaultless
    (State.init .empty) ((trackedResubmission "RTO Initiated").take 5)
    (fun s => (s.world.findOne "A-1").any (·.awbNumber = some "UB1") &&
      (production.run State.sequentialFaultless s
        ((trackedResubmission "RTO Initiated").drop 5 ++ rebooking)).any
          fun t => (t.world.findOne "A-1").any (·.awbNumber = some "UB2")) (by decide)
  obtain ⟨booked, continues⟩ := Bool.and_eq_true_iff.mp test
  obtain ⟨row, stored, awb⟩ := (Option.any_eq_true _ _).mp booked
  obtain ⟨t, later, replaced⟩ := Machine.Reaches.of_run_any _ _ s _ _ continues
  obtain ⟨⟨row', found, same⟩, -⟩ :=
    claim _ _ s t "A-1" row "UB1" .empty first stored (by simpa using awb) later
  rw [found, Option.any_some, same] at replaced
  contradiction

end CourierPlatform
