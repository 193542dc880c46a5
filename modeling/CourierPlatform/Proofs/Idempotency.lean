import CourierPlatform.Proofs.Bookings

/-! What the booking model gives for the platform: one booking per order, and no
booking that is lost again. Both hold for attempts that do not overlap, and for those
only: nothing stops two calls from claiming the same pending row. -/
namespace CourierPlatform
open Library Spec

instance {mayReopen : Prop} [Decidable mayReopen] (s : State) (l : Label) :
    Decidable (s.guarded mayReopen l) :=
  inferInstanceAs (Decidable (_ ∧ _ ∧ (_ → _)))

theorem Fits.row_open_or_booked {mayReopen : Prop} {phase : Phase} {held : Option Stage}
    {row : Order} (h : Fits mayReopen phase held (some row)) :
    row.status.isOpen = true ∨ phase = .booked := by
  cases h with
  | idle isOpen => exact .inl (isOpen row rfl)
  | claimed waits isOpen => exact .inl isOpen
  | answered closes isOpen => exact .inl isOpen
  | booked closed => exact .inr rfl

/-- At most one `createShipment` for an order is answered with success, if no attempt claims an
order that another one has claimed and couriers answer bookings with a status that is
neither `PENDING_DISPATCH` nor `FAILED`. -/
theorem bookings_le_one {env : Env} {s : State}
    (reach : (platform env).Reaches (State.guarded False) (State.init .empty) s) (x : String) :
    s.world.bookings x ≤ 1 := by
  have start : (State.init World.empty).Follows False x Booking.initial :=
    ⟨.init .empty, fun _ mem => absurd mem List.not_mem_nil, rfl, none,
      fun i => by simp [State.claims, State.init, claimOf],
      .idle fun _ found => by simp [State.init, World.empty, World.findOne] at found⟩
  obtain ⟨b, steps, follows⟩ := (bookingSimulation env False x).reaches start reach
  rw [follows.bookings]
  exact Booking.at_most_one steps

def repeatedSubmission : List Label :=
  let orderData := parcel "A-1" "mock"
  [.start (.createOrder orderData), .settle 0 .ok, .settle 0 .ok,
    .settle 0 (.booked (bookingReply orderData "MCK1")), .settle 0 .ok,
    .start (.createOrder orderData), .settle 1 .ok]

theorem bookings_le_one_repeatedSubmission :
    ∃ s : State, s.world.bookings "A-1" = 1 ∧ s.world.bookings "A-1" ≤ 1 := by
  obtain ⟨s, reach, once⟩ := Machine.Reaches.of_run_any production (State.guarded False)
    (State.init .empty) repeatedSubmission (fun s => s.world.bookings "A-1" = 1) (by decide)
  exact ⟨s, by simpa using once, bookings_le_one reach "A-1"⟩

/-- The second call reads the row the first has just inserted, finds it pending and
dispatches it as well. -/
def overlappingSubmissions : List Label :=
  let orderData := parcel "A-1" "mock"
  [.start (.createOrder orderData), .start (.createOrder orderData), .settle 0 .ok, .settle 0 .ok,
    .settle 1 .ok, .settle 1 .ok, .settle 0 (.booked (bookingReply orderData "MCK1")),
    .settle 1 (.booked (bookingReply orderData "MCK2"))]

theorem booked_twice_by_overlap :
    ¬ ∀ env s, (platform env).Reaches (fun s l => s.dispatching l = true) (State.init .empty) s →
      ∀ x, s.world.bookings x ≤ 1 := by
  intro claim
  obtain ⟨s, reach, twice⟩ := Machine.Reaches.of_run_any production
    (fun s l => s.dispatching l = true) (State.init .empty) overlappingSubmissions
    (fun s => s.world.bookings "A-1" = 2) (by decide)
  have once := claim _ s reach "A-1"
  simp only [decide_eq_true_eq] at twice
  omega

/-- A row that has become `CREATED` is never `PENDING_DISPATCH` or `FAILED` again, if no
attempt claims an order that another one has claimed. -/
theorem created_stays_closed {env : Env} {w : World} {s t : State} {x : String} {row : Order}
    (keyed : w.WellKeyed) (first : (platform env).Reaches (State.guarded True) (State.init w) s)
    (stored : s.world.findOne x = some row) (created : row.status = .created)
    (later : (platform env).Reaches (State.guarded True) s t) :
    ∃ row', t.world.findOne x = some row' ∧ row'.status ≠ .pendingDispatch ∧
      row'.status ≠ .failed := by
  obtain ⟨phase, start⟩ : ∃ phase, (State.init w).Follows True x ⟨phase, w.bookings x⟩ :=
    State.Follows.init keyed
  obtain ⟨b, -, follows⟩ := (bookingSimulation env True x).reaches start first
  obtain ⟨c, steps, follows'⟩ := (bookingSimulation env True x).reaches follows later
  obtain ⟨held, -, fits⟩ := follows.fits
  rw [stored] at fits
  have booked : b.phase = .booked := by
    rcases fits.row_open_or_booked with isOpen | booked
    · rw [created] at isOpen; contradiction
    · exact booked
  have final := Booking.booked_final booked steps
  subst final
  obtain ⟨held', -, fits'⟩ := follows'.fits
  rw [booked] at fits'
  generalize t.world.findOne x = row' at fits'
  cases fits' with
  | booked closed =>
    refine ⟨_, rfl, ?_, ?_⟩ <;> intro status <;> rw [status] at closed <;> contradiction

theorem created_stays_closed_repeatedSubmission :
    ∃ (s t : State) (row row' : Order), s.world.findOne "A-1" = some row ∧
      row.status = .created ∧ t.world.findOne "A-1" = some row' ∧
      row'.status ≠ .pendingDispatch ∧ row'.status ≠ .failed := by
  obtain ⟨s, first, test⟩ := Machine.Reaches.of_run_any production (State.guarded True)
    (State.init .empty) (repeatedSubmission.take 5)
    (fun s => (s.world.findOne "A-1").any (·.status = .created) &&
      (production.run (State.guarded True) s (repeatedSubmission.drop 5)).isSome) (by decide)
  obtain ⟨booked, continues⟩ := Bool.and_eq_true_iff.mp test
  obtain ⟨row, stored, created⟩ := (Option.any_eq_true _ _).mp booked
  obtain ⟨t, ran⟩ := Option.isSome_iff_exists.mp continues
  have status : row.status = .created := by simpa using created
  obtain ⟨row', found, closed⟩ := created_stays_closed .empty first stored status
    (.of_run (repeatedSubmission.drop 5) ran)
  exact ⟨s, t, row, row', stored, status, found, closed⟩

/-- The second call is refused after the first has been booked, and writes its failure over
the booking. -/
def lateRefusal : List Label :=
  let orderData := parcel "A-1" "mock"
  [.start (.createOrder orderData), .start (.createOrder orderData), .settle 0 .ok, .settle 0 .ok,
    .settle 1 .ok, .settle 1 .ok, .settle 0 (.booked (bookingReply orderData "MCK1")),
    .settle 0 .ok, .settle 1 (.refused (.error "timeout")), .settle 1 .ok]

theorem booking_lost_by_late_refusal :
    ¬ ∀ env w s t x row, World.WellKeyed w →
      (platform env).Reaches (fun s l => s.dispatching l = true) (State.init w) s →
      s.world.findOne x = some row → row.status = .created → row.awbNumber.isSome = true →
      (platform env).Reaches (fun s l => s.dispatching l = true) s t →
      ∃ row', t.world.findOne x = some row' ∧ row'.status ≠ .pendingDispatch ∧
        row'.status ≠ .failed := by
  intro claim
  obtain ⟨s, first, test⟩ := Machine.Reaches.of_run_any production
    (fun s l => s.dispatching l = true) (State.init .empty) (lateRefusal.take 8)
    (fun s => (s.world.findOne "A-1").any
        (fun row => row.status = .created && row.awbNumber.isSome) &&
      (production.run (fun s l => s.dispatching l = true) s (lateRefusal.drop 8)).any fun t =>
        (t.world.findOne "A-1").any (·.status = .failed)) (by decide)
  obtain ⟨booked, continues⟩ := Bool.and_eq_true_iff.mp test
  obtain ⟨row, stored, created⟩ := (Option.any_eq_true _ _).mp booked
  obtain ⟨t, later, lost⟩ := Machine.Reaches.of_run_any _ _ s _ _ continues
  obtain ⟨row', found, -, notFailed⟩ := claim _ _ s t "A-1" row .empty first stored
    (by simpa using (Bool.and_eq_true_iff.mp created).1) (Bool.and_eq_true_iff.mp created).2 later
  rw [found] at lost
  exact notFailed (by simpa using lost)

end CourierPlatform
