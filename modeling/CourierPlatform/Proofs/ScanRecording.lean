import CourierPlatform.Proofs.Polls

/-! When polling records each scan once. A poll that runs alone appends to the table what its history
has and the table has not, so what matters is which scans share what they are recorded under. -/
namespace CourierPlatform
open Js Library UrbaneBoltMapper

def Poll.rowOf (env : Env) (poll : Poll) (row : Order) (reply : NormalizedTrackingResponse) (asked : Int)
    (evt : UrbaneBoltTrackingEvent) : TrackingEvent :=
  TrackingService.newEvent row reply (poll.item env asked evt)

section
variable {env : Env} {poll : Poll} {row : Order} {awbNumber : String} {s t u : State} {w : World}
  {reply : NormalizedTrackingResponse} {asked : Int} {evt : UrbaneBoltTrackingEvent}

theorem Poll.Booked.orderId (booked : poll.Booked env w row awbNumber) : row.orderId = poll.orderId :=
  w.orderId_of_findOne booked.stored

theorem Poll.scanKey_rowOf (reply : NormalizedTrackingResponse) (asked : Int) (parses : poll.Parses)
    (booked : poll.Booked env w row awbNumber) (mem : evt ∈ poll.body.rawEvents)
    (dated : (scanDate evt).isSome) :
    poll.scanKey? env evt = some (poll.rowOf env row reply asked evt).scanKey := by
  obtain ⟨text, date⟩ := Option.isSome_iff_exists.mp dated
  obtain ⟨instant, parsed⟩ := Option.isSome_iff_exists.mp (parses evt mem text date)
  have given : scanInstant poll.parseDate asked evt = some instant := by
    rw [scanInstant, date]
    exact parsed
  rw [scanKey?, date, Option.bind_some, parsed, Option.map_some, rowOf, scanKey_newEvent,
    TrackingEventItem.scanKey, item, given, Option.getD_some, scanItem, booked.orderId]

theorem Poll.eventTimestamp_rowOf (env : Env) (poll : Poll) (row : Order)
    (reply : NormalizedTrackingResponse) (asked : Int) (dateless : scanDate evt = none) :
    (poll.rowOf env row reply asked evt).eventTimestamp = asked := by
  have given : scanInstant poll.parseDate asked evt = some asked := by
    rw [scanInstant, dateless]
  rw [rowOf, TrackingService.newEvent, item, given, Option.getD_some, scanItem]

theorem Poll.Booked.resolved (booked : poll.Booked env s.world row awbNumber) (parses : poll.Parses)
    (readable : poll.readable = true) (idle : s.idle = true) (once : s.PolledOnce env poll t) :
    ∃ reply asked, s.world.now ≤ asked ∧
      t.tasks[s.tasks.length]? = some (.trackOrder (.resolved reply)) ∧
      t.world.events = insertAllNew TrackingEvent.scanKey s.world.events
        (poll.body.rawEvents.map (poll.rowOf env row reply asked)) := by
  cases booked.ended idle once with
  | @resolved reply asked since answered task events =>
    refine ⟨reply, asked, since, task, ?_⟩
    rw [events, TrackingService.recordAll, reply_history answered, List.map_map]
    rfl
  | rejected answered =>
    obtain ⟨reply, other⟩ := (reply_ok_iff parses).mpr readable
    rw [other] at answered
    contradiction

theorem Poll.keys_rowOf (reply : NormalizedTrackingResponse) (asked : Int) (parses : poll.Parses)
    (booked : poll.Booked env w row awbNumber) {evts : List UrbaneBoltTrackingEvent}
    (among : ∀ evt ∈ evts, evt ∈ poll.body.rawEvents)
    (dated : ∀ evt ∈ evts, (scanDate evt).isSome) :
    evts.map (poll.scanKey? env) =
      ((evts.map (poll.rowOf env row reply asked)).map TrackingEvent.scanKey).map some := by
  rw [List.map_map, List.map_map]
  apply List.map_congr_left
  intro evt mem
  exact scanKey_rowOf reply asked parses booked (among evt mem) (dated evt mem)

theorem UrbaneBoltTrackingEvent.toJson_injective {other : UrbaneBoltTrackingEvent}
    (same : other.toJson = evt.toJson) : other = evt := by
  obtain ⟨fields, typed⟩ := other
  cases Json.object.inj same
  rfl

namespace Poll.Distinct

theorem recorded (h : poll.Distinct env s.world) (booked : poll.Booked env s.world row awbNumber)
    (parses : poll.Parses)
    (events : t.world.events = insertAllNew TrackingEvent.scanKey s.world.events
      (poll.body.rawEvents.map (poll.rowOf env row reply asked)))
    (mem : evt ∈ poll.body.rawEvents) : t.world.HasRow poll.orderId evt := by
  obtain ⟨before, rest, split⟩ := List.append_of_mem mem
  rcases h.fresh before evt rest split with ⟨stored, there, own, raw⟩ | ⟨absent, first⟩
  · refine ⟨stored, ?_, own, raw⟩
    rw [events, mem_insertAllNew]
    exact .inl there
  · refine ⟨poll.rowOf env row reply asked evt, ?_, booked.orderId, rfl⟩
    have key := scanKey_rowOf reply asked parses booked mem (h.dated evt mem)
    have among : ∀ other ∈ before, other ∈ poll.body.rawEvents := by
      intro other earlier
      rw [split]
      exact List.mem_append_left _ earlier
    rw [keys_rowOf reply asked parses booked among fun other earlier =>
      h.dated other (among other earlier)] at first
    rw [key] at absent first
    rw [events, mem_insertAllNew]
    refine .inr ⟨before.map (poll.rowOf env row reply asked),
      rest.map (poll.rowOf env row reply asked), ?_, ?_, ?_⟩
    · rw [split, List.map_append, List.map_cons]
    · exact fun there => absent (List.mem_map_of_mem there)
    · exact fun there => first (List.mem_map_of_mem there)

theorem again (h : poll.Distinct env s.world) (booked : poll.Booked env s.world row awbNumber)
    (parses : poll.Parses) (idle : s.idle = true) (first : s.PolledOnce env poll t)
    (second : t.PolledOnce env poll u) : u.world.events = t.world.events := by
  obtain ⟨row', booked', -⟩ := booked.later first.reach
  obtain ⟨reply, asked, -, -, before⟩ := booked.resolved parses h.readable idle first
  obtain ⟨reply', asked', -, -, after⟩ := booked'.resolved parses h.readable first.settled second
  rw [after]
  apply insertAllNew_of_known
  intro added mem
  obtain ⟨evt, listed, rfl⟩ := List.mem_map.mp mem
  have same : (poll.rowOf env row reply asked evt).scanKey =
      (poll.rowOf env row' reply' asked' evt).scanKey := by
    have early := scanKey_rowOf reply asked parses booked listed (h.dated evt listed)
    have late := scanKey_rowOf reply' asked' parses booked' listed (h.dated evt listed)
    exact Option.some.inj (early.symm.trans late)
  rw [← same, before, mem_keys_insertAllNew]
  right
  exact List.mem_map_of_mem (List.mem_map_of_mem listed)

theorem of_nodup (readable : poll.readable = true)
    (dated : ∀ evt ∈ poll.body.rawEvents, (scanDate evt).isSome)
    (apart : (poll.body.rawEvents.map (poll.scanKey? env)).Nodup)
    (absent : ∀ evt ∈ poll.body.rawEvents, poll.scanKey? env evt ∉ w.scanKeys.map some) :
    poll.Distinct env w := by
  refine ⟨readable, dated, fun before evt rest split => .inr ⟨?_, ?_⟩⟩
  · apply absent
    rw [split]
    exact List.mem_append_right _ List.mem_cons_self
  · rw [split, List.map_append, List.map_cons, List.nodup_middle, List.nodup_cons,
      List.mem_append, not_or] at apart
    exact apart.1.1

theorem recordedOnce (h : poll.Distinct env w) (booked : poll.Booked env w row awbNumber)
    (parses : poll.Parses) : poll.RecordedOnce env w := by
  have fresh : (State.init w).idle = true := rfl
  obtain ⟨t, once⟩ := Poll.exists_polledOnce env poll fresh
  obtain ⟨u, twice⟩ := Poll.exists_polledOnce env poll once.settled
  refine ⟨⟨t, u, once, twice⟩, ?_, ?_, ?_⟩
  · intro t once
    obtain ⟨reply, asked, -, task, -⟩ := Poll.Booked.resolved booked parses h.readable fresh once
    exact ⟨reply, task⟩
  · intro t once evt mem
    obtain ⟨reply, asked, -, -, events⟩ := Poll.Booked.resolved booked parses h.readable fresh once
    exact recorded h booked parses events mem
  · intro t u first second
    exact again h booked parses fresh first second

end Poll.Distinct

namespace Poll.RecordedOnce

variable (h : poll.RecordedOnce env w) (booked : poll.Booked env w row awbNumber)
  (parses : poll.Parses)

include h booked parses

theorem readable : poll.readable = true := by
  obtain ⟨t, -, once, -⟩ := h.ends
  obtain ⟨reply, task⟩ := h.returns t once
  have fresh : (State.init w).idle = true := rfl
  cases Poll.Booked.ended booked fresh once with
  | resolved since answered => exact (reply_ok_iff parses).mp ⟨_, answered⟩
  | rejected answered other =>
    cases task.symm.trans other

theorem dated (mem : evt ∈ poll.body.rawEvents) : (scanDate evt).isSome := by
  by_contra dateless
  have dateless : scanDate evt = none := Option.not_isSome_iff_eq_none.mp dateless
  obtain ⟨t, -, once, -⟩ := h.ends
  obtain ⟨ms, past⟩ := exists_after (t.world.events.map TrackingEvent.eventTimestamp) t.world.now
  let later : State := ⟨{ t.world with now := t.world.now + ms }, t.tasks⟩
  have waits : (platform env).Reaches (State.polls env poll) t later :=
    Machine.Reaches.refl.step (.tick ms) trivial rfl
  obtain ⟨u, second⟩ := Poll.exists_polledOnce env poll (show later.idle = true from once.settled)
  have twice : t.PolledOnce env poll u := ⟨waits.trans second.reach, second.settled, second.one⟩
  obtain ⟨row', booked', -⟩ := Poll.Booked.later (s := .init w) booked (once.reach.trans waits)
  obtain ⟨reply, asked, since, -, events⟩ :=
    booked'.resolved parses (h.readable booked parses) once.settled second
  have same := h.again t u once twice
  have key : (poll.rowOf env row' reply asked evt).scanKey ∈
      t.world.events.map TrackingEvent.scanKey := by
    rw [← same, events, mem_keys_insertAllNew]
    right
    exact List.mem_map_of_mem (List.mem_map_of_mem mem)
  obtain ⟨stored, there, equal⟩ := List.mem_map.mp key
  have instant : stored.eventTimestamp = asked := by
    have arrival := poll.eventTimestamp_rowOf env row' reply asked dateless
    exact (congrArg ScanKey.eventTimestamp equal).trans arrival
  have early := past _ (List.mem_map_of_mem there)
  have late : t.world.now + ms ≤ asked := since
  omega

theorem fresh (distinct : poll.body.rawEvents.Nodup) {before rest : List UrbaneBoltTrackingEvent}
    (split : poll.body.rawEvents = before ++ evt :: rest) :
    w.HasRow poll.orderId evt ∨ poll.scanKey? env evt ∉ w.scanKeys.map some ∧
      poll.scanKey? env evt ∉ before.map (poll.scanKey? env) := by
  obtain ⟨t, -, once, -⟩ := h.ends
  have begun : (State.init w).idle = true := rfl
  obtain ⟨reply, asked, -, -, events⟩ :=
    Poll.Booked.resolved booked parses (h.readable booked parses) begun once
  have mem : evt ∈ poll.body.rawEvents := by
    rw [split]
    exact List.mem_append_right _ List.mem_cons_self
  obtain ⟨stored, there, own, raw⟩ := h.recorded t once evt mem
  rw [events, mem_insertAllNew] at there
  rcases there with there | ⟨early, late, rows, new, first⟩
  · exact .inl ⟨stored, there, own, raw⟩
  · obtain ⟨before', tail, split', rfl, others⟩ := List.map_eq_append_iff.mp rows
    obtain ⟨evt', rest', rfl, rfl, -⟩ := List.map_eq_cons_iff.mp others
    obtain rfl : evt' = evt := UrbaneBoltTrackingEvent.toJson_injective (Option.some.inj raw)
    have apart := distinct
    rw [split, List.nodup_middle, List.nodup_cons, List.mem_append, not_or] at apart
    obtain ⟨rfl, -, -⟩ :=
      (List.append_cons_inj_of_notMem apart.1.1 apart.1.2).mp (split.symm.trans split')
    have among : ∀ other ∈ before, other ∈ poll.body.rawEvents := by
      intro other earlier
      rw [split]
      exact List.mem_append_left _ earlier
    right
    rw [scanKey_rowOf reply asked parses booked mem (h.dated booked parses mem),
      keys_rowOf reply asked parses booked among fun other earlier =>
        h.dated booked parses (among other earlier)]
    constructor
    · intro known
      obtain ⟨key, there, same⟩ := List.mem_map.mp known
      exact new (Option.some.inj same ▸ there)
    · intro known
      obtain ⟨key, there, same⟩ := List.mem_map.mp known
      exact first (Option.some.inj same ▸ there)

end Poll.RecordedOnce
end

/-- Polling a booked order records each scan of the body once if and only if the body can be read, all
its scans have a date, and each that has no row yet differs from every row and from the scans before it
in mapped status, activity or instant. -/
theorem scans_recorded_iff {env : Env} {poll : Poll} {w : World} {row : Order} {awbNumber : String}
    (booked : poll.Booked env w row awbNumber) (parses : poll.Parses)
    (distinct : poll.body.rawEvents.Nodup) : poll.RecordedOnce env w ↔ poll.Distinct env w := by
  constructor
  · intro h
    refine ⟨h.readable booked parses, ?_, ?_⟩
    · exact fun evt mem => h.dated booked parses mem
    · exact fun before evt rest split => h.fresh booked parses distinct split
  · intro h
    exact h.recordedOnce booked parses

def transitScan (fields : List (String × Json)) : List (String × Json) :=
  ("status", .string "IN_TRANSIT") :: fields

def fullDates : Poll where
  orderId := "A-1"
  parseDate text :=
    if text = "2026-08-18T10:00:00.000Z" then some 1787047200000
    else if text = "2026-08-18T14:00:00.000Z" then some 1787061600000
    else none
  body := {
    rawResponse := .object [("current_status", .string "Package reached sorting hub"),
      ("events", .array
        [.object (transitScan [("timestamp", .string "2026-08-18T10:00:00.000Z")]),
          .object (transitScan [("timestamp", .string "2026-08-18T14:00:00.000Z")])])]
    rawEvents := [⟨transitScan [("timestamp", .string "2026-08-18T10:00:00.000Z")], by decide⟩,
      ⟨transitScan [("timestamp", .string "2026-08-18T14:00:00.000Z")], by decide⟩]
    listed := rfl }

theorem scans_recorded_full_dates :
    fullDates.RecordedOnce (defaultEnv .postgres .named) urbaneBoltParcel := by
  have booked : fullDates.Booked (defaultEnv .postgres .named) urbaneBoltParcel urbaneBoltOrder
      "200000001170" := ⟨rfl, rfl, by decide, by decide⟩
  have parses : fullDates.Parses := by
    unfold Poll.Parses
    decide
  exact (scans_recorded_iff booked parses (by decide)).mpr
    (.of_nodup (by decide) (by decide) (by decide) (by decide))

def morningScan : UrbaneBoltTrackingEvent :=
  ⟨transitScan [("date", .string "2026-08-18"), ("time", .string "10:00")], by decide⟩

def afternoonScan : UrbaneBoltTrackingEvent :=
  ⟨transitScan [("date", .string "2026-08-18"), ("time", .string "14:00")], by decide⟩

def splitDates : Poll where
  orderId := "A-1"
  parseDate text := if text = "2026-08-18" then some 1787011200000 else none
  body := {
    rawResponse := .object [("events", .array [morningScan.toJson, afternoonScan.toJson])]
    rawEvents := [morningScan, afternoonScan]
    listed := rfl }

/-- The second of the two is never recorded. -/
theorem scan_lost_of_split_dates :
    ¬ ∀ env poll w row awbNumber, Poll.Booked env poll w row awbNumber → poll.Parses →
      poll.body.rawEvents.Nodup → poll.RecordedOnce env w := by
  intro claim
  have booked : splitDates.Booked (defaultEnv .postgres .named) urbaneBoltParcel urbaneBoltOrder
      "200000001170" := ⟨rfl, rfl, by decide, by decide⟩
  have parses : splitDates.Parses := by
    unfold Poll.Parses
    decide
  have distinct : splitDates.body.rawEvents.Nodup := by decide
  have split : splitDates.body.rawEvents = [morningScan] ++ afternoonScan :: [] := rfl
  rcases (claim _ _ _ _ _ booked parses distinct).fresh booked parses distinct split with
    ⟨stored, there, -⟩ | ⟨-, first⟩
  · exact absurd there List.not_mem_nil
  · exact first (by decide)

end CourierPlatform
