import CourierPlatform.Proofs.Footprint
import CourierPlatform.Spec.Tracking

/-! Concurrent `trackOrder` calls. Deduplication is a `findOne` and a `create` without a unique index
behind them, so it rests on no call checking between the two steps of another. -/
namespace CourierPlatform
open Library

section
variable {env : Env} {s t : State} {l : Label} {i j : Nat} {key : ScanKey} {orderId : String}

theorem Task.eq_of_checking? {task : Task} (h : task.checking? = some key) :
    ∃ order reply event rest, task = .trackOrder (.findEvent order reply event rest) ∧
      event.scanKey order.orderId = key := by
  cases task with
  | trackOrder call =>
    cases call with
    | findEvent order reply event rest => exact ⟨order, reply, event, rest, rfl, Option.some.inj h⟩
    | _ => contradiction
  | _ => contradiction

theorem Task.eq_of_creating? {task : Task} (h : task.creating? = some key) :
    ∃ order reply event rest, task = .trackOrder (.createEvent order reply event rest) ∧
      event.scanKey order.orderId = key := by
  cases task with
  | trackOrder call =>
    cases call with
    | createEvent order reply event rest => exact ⟨order, reply, event, rest, rfl, Option.some.inj h⟩
    | _ => contradiction
  | _ => contradiction

theorem nextEvent_creating? (order : Order) (reply : NormalizedTrackingResponse)
    (events : List TrackingEventItem) :
    (TrackingService.nextEvent order reply events).creating? = none := by
  cases events <;> rfl

theorem Task.not_creating_of_checking {task : Task} {other : ScanKey}
    (checking : task.checking? = some key) : task.creating? ≠ some other := by
  obtain ⟨order, reply, event, rest, rfl, -⟩ := eq_of_checking? checking
  exact nofun

theorem next_findEvent {order : Order} {reply : NormalizedTrackingResponse}
    {event : TrackingEventItem} {rest : List TrackingEventItem}
    (awaiting : s.tasks[i]? = some (.trackOrder (.findEvent order reply event rest))) :
    (platform env).next s (.settle i .ok) =
      some ⟨s.world, s.tasks.set i (.trackOrder
        (if event.scanKey order.orderId ∈ s.world.scanKeys then
          TrackingService.nextEvent order reply rest
        else .createEvent order reply event rest))⟩ := by
  simp [platform, State.next, awaiting, Task.step, TrackingService.step, ← any_sameEvent]

theorem next_createEvent {order : Order} {reply : NormalizedTrackingResponse}
    {event : TrackingEventItem} {rest : List TrackingEventItem}
    (awaiting : s.tasks[i]? = some (.trackOrder (.createEvent order reply event rest))) :
    (platform env).next s (.settle i .ok) =
      some ⟨s.world.createEvent (TrackingService.newEvent order reply event),
        s.tasks.set i (.trackOrder (TrackingService.nextEvent order reply rest))⟩ := by
  simp [platform, State.next, awaiting, Task.step, TrackingService.step]

theorem TrackingService.Moves.checking_of_creating {w w' : World} {call call' : TrackOrder}
    {a : Answer} (moved : Moves env w call a w' call') (creating : call'.creating? = some key) :
    a = .ok ∧ call.checking? = some key := by
  cases moved with
  | eventMissing => exact ⟨rfl, creating⟩
  | tracked =>
    unfold updateOrderStatusIfChanged at creating
    split at creating
    · contradiction
    · rw [nextEvent_creating?] at creating
      contradiction
  | statusUpdated =>
    rw [nextEvent_creating?] at creating
    contradiction
  | eventFound =>
    rw [nextEvent_creating?] at creating
    contradiction
  | eventAdded =>
    rw [nextEvent_creating?] at creating
    contradiction
  | _ => contradiction

theorem creating_came {task : Task} (next : (platform env).next s l = some t)
    (found : t.tasks[j]? = some task) (creating : task.creating? = some key) :
    (s.tasks[j]? = some task ∧ ∀ a, l ≠ .settle j a) ∨
      ∃ before, l = .settle j .ok ∧ s.tasks[j]? = some before ∧ before.checking? = some key ∧
        key ∉ s.world.scanKeys ∧ t.world = s.world := by
  cases (State.Moves.of_next next).came found with
  | kept before still => exact .inl ⟨before, still⟩
  | started request => cases request <;> contradiction
  | moved label awaiting step =>
    right
    cases step with
    | trackOrder moved =>
      obtain ⟨rfl, checking⟩ := moved.checking_of_creating creating
      subst label
      obtain ⟨order, reply, event, rest, same, rfl⟩ := @Task.eq_of_checking? _ (.trackOrder _) checking
      rw [same] at awaiting
      rw [next_findEvent awaiting] at next
      cases Option.some.inj next
      refine ⟨_, rfl, awaiting, rfl, ?_, rfl⟩
      intro recorded
      rw [if_pos recorded] at found
      rcases getElem?_set_cases found with ⟨other, -⟩ | ⟨-, after⟩
      · exact other rfl
      · rw [after] at creating
        change (TrackingService.nextEvent order reply rest).creating? = _ at creating
        rw [nextEvent_creating?] at creating
        contradiction
    | _ => contradiction
  | _ => contradiction

def State.TracksOnly (s : State) : Prop :=
  ∀ task ∈ s.tasks, task = .crashed ∨ ∃ call, task = .trackOrder call

theorem State.TracksOnly.notBulk (h : s.TracksOnly) {call : BulkOrder} :
    s.tasks[i]? ≠ some (.createBulkOrders call) := by
  intro found
  rcases h _ (List.mem_of_getElem? found) with crashed | ⟨_, tracks⟩ <;> contradiction

theorem State.TracksOnly.next (h : s.TracksOnly) (allowed : l.tracking orderId = true)
    (moves : Moves env s l t) : t.TracksOnly := by
  intro task member
  obtain ⟨j, found⟩ := List.getElem?_of_mem member
  cases moves.came found with
  | kept before => exact h task (List.mem_of_getElem? before)
  | started request label =>
    subst label
    cases request <;> first | exact .inr ⟨_, rfl⟩ | exact Bool.noConfusion allowed
  | moved label awaiting step =>
    rcases h _ (List.mem_of_getElem? awaiting) with rfl | ⟨call, rfl⟩
    · exact absurd step.unsettled nofun
    · cases step
      exact .inr ⟨_, rfl⟩
  | item awaiting => exact absurd awaiting h.notBulk
  | wentOn awaiting => exact absurd awaiting h.notBulk
  | collected awaiting => exact absurd awaiting h.notBulk
  | died => exact .inl rfl

theorem State.TracksOnly.scanKeys_next (h : s.TracksOnly) (moves : Moves env s l t) :
    t.world.scanKeys = s.world.scanKeys ∨
      ∃ i task key, (∃ a, l = .settle i a) ∧ s.tasks[i]? = some task ∧ task.creating? = some key ∧
        t.world.scanKeys = s.world.scanKeys ++ [key] := by
  cases moves with
  | settled awaiting step =>
    rcases h _ (List.mem_of_getElem? awaiting) with rfl | ⟨call, rfl⟩
    · exact absurd step.unsettled nofun
    · cases step with
      | trackOrder moved =>
        cases moved with
        | eventAdded =>
          exact .inr ⟨_, _, _, ⟨_, rfl⟩, awaiting, rfl, scanKeys_createEvent ..⟩
        | _ => exact .inl rfl
  | _ => exact .inl rfl

/-- The events are recorded once each, and an event that a call is about to insert is not recorded yet
and is that call's alone. -/
structure State.Deduplicated (s : State) : Prop where
  tracks : s.TracksOnly
  recorded : s.world.scanKeys.Nodup
  absent : ∀ (i : Nat) (task : Task) (key : ScanKey), s.tasks[i]? = some task →
    task.creating? = some key → key ∉ s.world.scanKeys
  apart : ∀ (i j : Nat) (ti tj : Task) (key : ScanKey), s.tasks[i]? = some ti → s.tasks[j]? = some tj →
    ti.creating? = some key → tj.creating? = some key → i = j

theorem State.Deduplicated.init {w : World} (start : w.scanKeys.Nodup) :
    (State.init w).Deduplicated where
  tracks := by
    intro task member
    contradiction
  recorded := start
  absent := by
    intro i task key found
    contradiction
  apart := by
    intro i j ti tj key found
    contradiction

theorem State.not_creating_of_checksAlone {ti tj : Task} (alone : s.checksAlone (.settle i .ok) = true)
    (awaiting : s.tasks[i]? = some ti) (checking : ti.checking? = some key)
    (found : s.tasks[j]? = some tj) : tj.creating? ≠ some key := by
  simp only [checksAlone, awaiting, Option.bind_some, checking] at alone
  simpa using List.all_eq_true.mp alone tj (List.mem_of_getElem? found)

theorem State.Deduplicated.next (h : s.Deduplicated) (allowed : l.tracking orderId = true)
    (alone : s.checksAlone l = true) (next : (platform env).next s l = some t) :
    t.Deduplicated := by
  have moves := State.Moves.of_next next
  have grown := h.tracks.scanKeys_next moves
  refine ⟨h.tracks.next allowed moves, ?_, ?_, ?_⟩
  · rcases grown with same | ⟨i, task, key, -, found, creating, added⟩
    · rw [same]
      exact h.recorded
    · rw [added]
      exact List.nodup_append.mpr ⟨h.recorded, List.nodup_singleton key, by
        rintro old member _ (_ | ⟨_, ⟨⟩⟩) rfl
        exact h.absent i task _ found creating member⟩
  · intro j task key found creating
    rcases creating_came next found creating with ⟨before, still⟩ | ⟨checker, -, -, -, missing, same⟩
    · rcases grown with same | ⟨i, other, added, ⟨a, label⟩, inserting, inserts, grown⟩
      · rw [same]
        exact h.absent j task key before creating
      · have apart : key ≠ added := by
          rintro rfl
          have index := h.apart i j other task key inserting before inserts creating
          exact still a (index ▸ label)
        rw [grown]
        simpa [apart] using h.absent j task key before creating
    · rw [same]
      exact missing
  · intro i j ti tj key atI atJ creatingI creatingJ
    rcases creating_came next atI creatingI with ⟨beforeI, -⟩ | ⟨checkerI, labelI, awaitingI, checkI, -⟩
    · rcases creating_came next atJ creatingJ with
        ⟨beforeJ, -⟩ | ⟨checkerJ, labelJ, awaitingJ, checkJ, -⟩
      · exact h.apart i j ti tj key beforeI beforeJ creatingI creatingJ
      · subst labelJ
        exact absurd creatingI (not_creating_of_checksAlone alone awaitingJ checkJ beforeI)
    · subst labelI
      rcases creating_came next atJ creatingJ with
        ⟨beforeJ, -⟩ | ⟨checkerJ, labelJ, awaitingJ, checkJ, -⟩
      · exact absurd creatingJ (not_creating_of_checksAlone alone awaitingI checkI beforeJ)
      · cases labelJ
        rfl

/-- Concurrent calls record each scan once as long as every check for an event is made while no other
call stands between its check for the same event and the insertion. -/
theorem scans_recorded_once {w : World} (start : w.scanKeys.Nodup)
    (reach : (platform env).Reaches
      (fun s l => l.tracking orderId = true ∧ s.checksAlone l = true) (State.init w) t) :
    t.world.scanKeys.Nodup :=
  (reach.invariant State.Deduplicated (.init start) fun _ _ _ inv allowed next =>
    inv.next allowed.1 allowed.2 next).recorded

theorem insertion_reached (env : Env) {task : Task} (inserting : s.tasks[i]? = some task)
    (creating : task.creating? = some key) :
    ∃ t, (platform env).next s (.settle i .ok) = some t ∧
      t.world.scanKeys = s.world.scanKeys ++ [key] ∧ ∀ j, j ≠ i → t.tasks[j]? = s.tasks[j]? := by
  obtain ⟨order, reply, event, rest, rfl, rfl⟩ := Task.eq_of_creating? creating
  refine ⟨_, next_createEvent inserting, scanKeys_createEvent .., ?_⟩
  intro j other
  exact List.getElem?_set_ne (Ne.symm other)

theorem check_reached (env : Env) {task : Task} (looking : s.tasks[j]? = some task)
    (checking : task.checking? = some key) (missing : key ∉ s.world.scanKeys) :
    ∃ t after, (platform env).next s (.settle j .ok) = some t ∧ t.world = s.world ∧
      t.tasks[j]? = some after ∧ after.creating? = some key ∧
      ∀ i, i ≠ j → t.tasks[i]? = s.tasks[i]? := by
  obtain ⟨order, reply, event, rest, rfl, rfl⟩ := Task.eq_of_checking? checking
  have inside := (List.getElem?_eq_some_iff.mp looking).1
  have looked : (platform env).next s (.settle j .ok) = _ := next_findEvent looking
  rw [if_neg missing] at looked
  refine ⟨_, _, looked, rfl, List.getElem?_set_self inside, rfl, ?_⟩
  intro i other
  exact List.getElem?_set_ne (Ne.symm other)

/-- The condition leaves out no more than the race: a check that is not made alone can always go on to
record its event twice. -/
theorem overlapping_checks_duplicate {ti tj : Task} (inserting : s.tasks[i]? = some ti)
    (creating : ti.creating? = some key) (looking : s.tasks[j]? = some tj)
    (checking : tj.checking? = some key) (missing : key ∉ s.world.scanKeys) :
    ∃ t, (platform env).Reaches (fun _ l => l.tracking orderId = true) s t ∧
      ¬ t.world.scanKeys.Nodup := by
  have other : i ≠ j := by
    rintro rfl
    rw [inserting] at looking
    cases looking
    exact Task.not_creating_of_checking checking creating
  obtain ⟨checked, after, looked, sameWorld, second, pending, kept⟩ :=
    check_reached env looking checking missing
  have first : checked.tasks[i]? = some ti := (kept i other).trans inserting
  obtain ⟨once, insertedFirst, keysOnce, kept⟩ := insertion_reached env first creating
  have still : once.tasks[j]? = some after := (kept j (Ne.symm other)).trans second
  obtain ⟨twice, insertedSecond, keysTwice, -⟩ := insertion_reached env still pending
  have reach : (platform env).Reaches (fun _ l => l.tracking orderId = true) s twice :=
    .step (.settle j .ok) (.step (.settle i .ok) (.step (.settle j .ok) .refl rfl looked) rfl
      insertedFirst) rfl insertedSecond
  refine ⟨twice, reach, ?_⟩
  rw [keysTwice, keysOnce]
  simp [List.nodup_append]

end

theorem scans_recorded_once_two_polls : ∃ t : State,
    t.world.events.length = 1 ∧ t.world.scanKeys.Nodup := by
  let poll (i : Nat) : List Label :=
    [.start (.trackOrder "A-1"), .settle i .ok, .settle i (.tracked scannedReply), .settle i .ok]
  obtain ⟨t, reach, test⟩ := Machine.Reaches.of_run_any production
    (fun s l => l.tracking "A-1" = true ∧ s.checksAlone l = true) (State.init bookedParcel)
    (poll 0 ++ [.settle 0 .ok] ++ poll 1) (fun t => t.world.events.length = 1) (by decide)
  exact ⟨t, of_decide_eq_true test, scans_recorded_once (by decide) reach⟩

/-- Two calls look for the scan before either has inserted it. -/
theorem concurrent_scans_duplicated :
    ¬ ∀ env w t orderId, (World.scanKeys w).Nodup →
      (platform env).Reaches (fun _ l => l.tracking orderId = true) (State.init w) t →
      t.world.scanKeys.Nodup := by
  intro claim
  obtain ⟨t, reach, test⟩ := Machine.Reaches.of_run_any production
    (fun _ l => l.tracking "A-1" = true) (State.init bookedParcel)
    [.start (.trackOrder "A-1"), .start (.trackOrder "A-1"), .settle 0 .ok, .settle 1 .ok,
      .settle 0 (.tracked scannedReply), .settle 1 (.tracked scannedReply), .settle 0 .ok,
      .settle 1 .ok, .settle 0 .ok, .settle 1 .ok]
    (fun t => t.idle && !decide t.world.scanKeys.Nodup) (by decide)
  have once := claim _ _ t "A-1" (by decide) reach
  simp [once] at test

end CourierPlatform
