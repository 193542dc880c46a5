import Mathlib.Data.List.MinMax
import CourierPlatform.Library.Lists
import CourierPlatform.Model.UrbaneBoltTracking

/-! What a tracking body is read as: which bodies can be read at all, and which status comes of the
events. -/
namespace CourierPlatform
open Js Library

namespace UrbaneBoltMapper

def textual (alternatives : List (Option Json)) : Bool :=
  (Json.firstTruthy alternatives).all fun value => value.toText?.isSome

theorem stringOf_ok_iff (alternatives : List (Option Json)) (last : String) :
    (∃ text, stringOf alternatives last = .ok text) ↔ textual alternatives = true := by
  unfold stringOf textual
  cases Json.firstTruthy alternatives with
  | none => simp
  | some value => cases text : value.toText? <;> simp [text]

theorem resolveCurrentTrackingStatus_ok_iff (js : JsText) (rawResponse : Json)
    (mappedEvents : List TrackingEventItem) :
    (∃ status, resolveCurrentTrackingStatus js rawResponse mappedEvents = .ok status) ↔
      textual (statusFields rawResponse) = true := by
  rw [← stringOf_ok_iff _ ""]
  unfold resolveCurrentTrackingStatus
  cases truthy : Json.firstTruthy (statusFields rawResponse) with
  | none => simp [stringOf, truthy]
  | some value =>
    constructor
    · rintro ⟨status, read⟩
      obtain ⟨text, same, -⟩ := Except.of_bind_ok read
      exact ⟨text, same⟩
    · rintro ⟨text, same⟩
      refine ⟨mapStatus js text, ?_⟩
      simp only [same]
      rfl

theorem trackedOrderId_ok_iff (rawResponse : Json) (orderId : Option String) :
    (∃ text, trackedOrderId rawResponse orderId = .ok text) ↔
      (orNull orderId).isSome ∨ textual [rawResponse.get? "orderNumber"] = true := by
  unfold trackedOrderId
  cases orNull orderId with
  | none => simp [stringOf_ok_iff]
  | some orderId => simp

section
variable {js : JsText} {parseDate : String → Option Int} {now : Int}

def DatesParse (parseDate : String → Option Int) (rawEvents : List UrbaneBoltTrackingEvent) : Prop :=
  ∀ evt ∈ rawEvents, ∀ text ∈ scanDate evt, (parseDate text).isSome

def timelineItem (js : JsText) (parseDate : String → Option Int) (now : Int)
    (evt : UrbaneBoltTrackingEvent) : TrackingEventItem :=
  scanItem js evt ((scanInstant parseDate now evt).getD 0)

@[simp] theorem timelineItem_status (js : JsText) (now : Int) (evt : UrbaneBoltTrackingEvent) :
    (timelineItem js parseDate now evt).status = scanStatus js evt := by
  rw [timelineItem, scanItem]

theorem scanInstant_isSome_iff (now : Int) {evt : UrbaneBoltTrackingEvent} :
    (scanInstant parseDate now evt).isSome ↔ ∀ text ∈ scanDate evt, (parseDate text).isSome := by
  unfold scanInstant
  cases scanDate evt <;> simp

theorem mapTrackingTimeline_ok_iff {rawEvents : List UrbaneBoltTrackingEvent}
    {items : List TrackingEventItem} :
    mapTrackingTimeline js parseDate now rawEvents = .ok items ↔
      DatesParse parseDate rawEvents ∧ items = rawEvents.map (timelineItem js parseDate now) := by
  rw [mapTrackingTimeline, mapM_ok_iff]
  constructor
  · intro mapped
    replace mapped : List.Forall₂ (fun evt item => (∀ text ∈ scanDate evt, (parseDate text).isSome) ∧
        item = timelineItem js parseDate now evt) rawEvents items := by
      refine mapped.imp fun evt item read => ?_
      rw [← scanInstant_isSome_iff now, timelineItem]
      cases instant : scanInstant parseDate now evt with
      | none => simp [instant] at read
      | some timestamp => simpa [instant, eq_comm] using read
    induction mapped with
    | nil => exact ⟨fun evt mem => absurd mem List.not_mem_nil, rfl⟩
    | cons here _ ih =>
      obtain ⟨parse, rfl⟩ := ih
      exact ⟨List.forall_mem_cons.mpr ⟨here.1, parse⟩, by rw [List.map_cons, here.2]⟩
  · rintro ⟨parse, rfl⟩
    rw [List.forall₂_map_right_iff, List.forall₂_same]
    intro evt mem
    obtain ⟨timestamp, instant⟩ :=
      Option.isSome_iff_exists.mp ((scanInstant_isSome_iff now).mpr (parse evt mem))
    simp [instant, timelineItem]

end

section
variable {js : JsText} {parseDate : String → Option Int} {now : Int}
  {body : UrbaneBoltTrackingResponse} {awbNumber : String} {orderId : Option String}
  {reply : NormalizedTrackingResponse}

theorem toNormalizedTrackingResponse_ok_iff :
    (∃ reply, toNormalizedTrackingResponse js parseDate now body awbNumber orderId = .ok reply) ↔
      DatesParse parseDate body.rawEvents ∧ textual (statusFields body.rawResponse) = true ∧
        ((orNull orderId).isSome ∨ textual [body.rawResponse.get? "orderNumber"] = true) := by
  rw [← trackedOrderId_ok_iff]
  unfold toNormalizedTrackingResponse
  constructor
  · rintro ⟨reply, h⟩
    obtain ⟨items, mapped, h⟩ := Except.of_bind_ok h
    obtain ⟨status, -, h⟩ := Except.of_bind_ok h
    obtain ⟨orderId, own, h⟩ := Except.of_bind_ok h
    obtain ⟨description, read, -⟩ := Except.of_bind_ok h
    exact ⟨(mapTrackingTimeline_ok_iff.mp mapped).1, (stringOf_ok_iff _ _).mp ⟨description, read⟩,
      orderId, own⟩
  · rintro ⟨parse, read, orderId, own⟩
    have mapped : mapTrackingTimeline js parseDate now body.rawEvents =
        .ok (body.rawEvents.map (timelineItem js parseDate now)) :=
      mapTrackingTimeline_ok_iff.mpr ⟨parse, rfl⟩
    obtain ⟨status, resolved⟩ := (resolveCurrentTrackingStatus_ok_iff js body.rawResponse
      (body.rawEvents.map (timelineItem js parseDate now))).mpr read
    obtain ⟨description, described⟩ := (stringOf_ok_iff _ status.text).mpr read
    simp [mapped, bind, Except.bind, resolved, own, described]

theorem toNormalizedTrackingResponse_ok
    (read : toNormalizedTrackingResponse js parseDate now body awbNumber orderId = .ok reply) :
    reply.trackingHistory = body.rawEvents.map (timelineItem js parseDate now) ∧
      resolveCurrentTrackingStatus js body.rawResponse reply.trackingHistory = .ok reply.status := by
  unfold toNormalizedTrackingResponse at read
  obtain ⟨items, mapped, read⟩ := Except.of_bind_ok read
  obtain ⟨status, resolved, read⟩ := Except.of_bind_ok read
  obtain ⟨orderId, -, read⟩ := Except.of_bind_ok read
  obtain ⟨description, -, read⟩ := Except.of_bind_ok read
  cases read
  exact ⟨(mapTrackingTimeline_ok_iff.mp mapped).2, resolved⟩

end

/-! ## Bodies of the declared type -/

def isScan : Json → Bool
  | .object fields =>
    ["status", "activity", "action", "location", "city", "timestamp", "date", "time"].all
      fun name => (Json.field? name fields).all Json.isText
  | _ => false

def isScanList : Json → Bool
  | .array items => items.all isScan
  | _ => false

/-- The fields are those of an `UrbaneBoltTrackingResponse`: the named ones that are there are texts, and
lists of scans. -/
def conforms (fields : List (String × Json)) : Bool :=
  (["status", "current_status", "awb", "orderNumber", "estimated_delivery"].all
    fun name => (Json.field? name fields).all Json.isText) &&
  ["events", "scans", "history"].all fun name => (Json.field? name fields).all isScanList

section
variable {fields : List (String × Json)}

theorem exists_events {items : List Json} (scans : items.all isScan = true) :
    ∃ rawEvents : List UrbaneBoltTrackingEvent,
      items = rawEvents.map UrbaneBoltTrackingEvent.toJson := by
  induction items with
  | nil => exact ⟨[], rfl⟩
  | cons item rest ih =>
    obtain ⟨here, later⟩ := Bool.and_eq_true_iff.mp scans
    obtain ⟨rawEvents, rfl⟩ := ih later
    cases item with
    | object fields => exact ⟨⟨fields, here⟩ :: rawEvents, rfl⟩
    | _ => contradiction

theorem exists_body (typed : conforms fields = true) :
    ∃ body : UrbaneBoltTrackingResponse, body.rawResponse = .object fields := by
  have lists := (Bool.and_eq_true_iff.mp typed).2
  cases found : Json.firstTruthy [Json.field? "events" fields, Json.field? "scans" fields,
      Json.field? "history" fields] with
  | none => exact ⟨⟨.object fields, [], congrArg (Option.getD · _) found⟩, rfl⟩
  | some value =>
    have scans : isScanList value = true := by
      simp only [List.all_cons, List.all_nil, Bool.and_true, Bool.and_eq_true] at lists
      have mem := Json.mem_of_firstTruthy found
      simp only [List.mem_cons, List.not_mem_nil, or_false] at mem
      rcases mem with here | here | here <;> rw [← here] at lists
      · exact lists.1
      · exact lists.2.1
      · exact lists.2.2
    cases value with
    | array items =>
      obtain ⟨rawEvents, rfl⟩ := exists_events scans
      exact ⟨⟨.object fields, rawEvents, congrArg (Option.getD · _) found⟩, rfl⟩
    | _ => contradiction

theorem textual_of_texts {alternatives : List (Option Json)}
    (texts : ∀ alternative ∈ alternatives, alternative.all Json.isText = true) :
    textual alternatives = true := by
  unfold textual
  cases found : Json.firstTruthy alternatives with
  | none => rfl
  | some value =>
    have text := texts _ (Json.mem_of_firstTruthy found)
    cases value with
    | string text => rfl
    | _ => contradiction

variable {js : JsText} {parseDate : String → Option Int} {now : Int}
  {body : UrbaneBoltTrackingResponse} {awbNumber : String} {orderId : Option String}

theorem ok_iff_of_conforms (typed : conforms fields = true) (raw : body.rawResponse = .object fields) :
    (∃ reply, toNormalizedTrackingResponse js parseDate now body awbNumber orderId = .ok reply) ↔
      DatesParse parseDate body.rawEvents := by
  have texts := (Bool.and_eq_true_iff.mp typed).1
  simp only [List.all_cons, List.all_nil, Bool.and_true, Bool.and_eq_true] at texts
  obtain ⟨status, currentStatus, -, orderNumber, -⟩ := texts
  have stated : textual (statusFields body.rawResponse) = true := by
    rw [statusFields, raw]
    exact textual_of_texts (by simpa [Json.get?] using ⟨currentStatus, status⟩)
  have numbered : textual [body.rawResponse.get? "orderNumber"] = true := by
    rw [raw]
    exact textual_of_texts (by simpa [Json.get?] using orderNumber)
  rw [toNormalizedTrackingResponse_ok_iff]
  exact and_iff_left ⟨stated, .inr numbered⟩

/-- A body of the declared type is read, with an entry for each event, exactly if every date in it
denotes an instant. -/
theorem tracking_returns_iff (typed : conforms fields = true) :
    (∃ body : UrbaneBoltTrackingResponse, body.rawResponse = .object fields) ∧
    ∀ body : UrbaneBoltTrackingResponse, body.rawResponse = .object fields →
      ∀ (js : JsText) (parseDate : String → Option Int) (now : Int) (awbNumber : String)
        (orderId : Option String),
      (∃ reply, toNormalizedTrackingResponse js parseDate now body awbNumber orderId = .ok reply ∧
        reply.trackingHistory.length = body.rawEvents.length) ↔
      DatesParse parseDate body.rawEvents := by
  refine ⟨exists_body typed, fun body raw js parseDate now awbNumber orderId => ?_⟩
  constructor
  · rintro ⟨reply, read, -⟩
    exact (ok_iff_of_conforms typed raw).mp ⟨reply, read⟩
  · intro parse
    obtain ⟨reply, read⟩ : ∃ reply,
        toNormalizedTrackingResponse js parseDate now body awbNumber orderId = .ok reply :=
      (ok_iff_of_conforms typed raw).mpr parse
    refine ⟨reply, read, ?_⟩
    rw [(toNormalizedTrackingResponse_ok read).1, List.length_map]

end

def listing (rawEvents : List UrbaneBoltTrackingEvent) : UrbaneBoltTrackingResponse where
  rawResponse := .object [("events", .array (rawEvents.map UrbaneBoltTrackingEvent.toJson))]
  rawEvents
  listed := rfl

theorem conforms_listing (rawEvents : List UrbaneBoltTrackingEvent) :
    conforms [("events", .array (rawEvents.map UrbaneBoltTrackingEvent.toJson))] = true := by
  have scans : (rawEvents.map UrbaneBoltTrackingEvent.toJson).all isScan = true := by
    simp only [List.all_map, List.all_eq_true]
    exact fun evt _ => evt.typed
  simp [conforms, Json.field?, isScanList, scans]

def scan (status timestamp : String) : UrbaneBoltTrackingEvent where
  fields := [("status", .string status), ("timestamp", .string timestamp)]
  typed := rfl

def newYear (text : String) : Option Int :=
  if text = "2026-01-01" then some 1767225600000
  else if text = "2026-01-02" then some 1767312000000
  else none

theorem tracking_returns_scans : ∃ reply,
    toNormalizedTrackingResponse .ascii newYear 0
      (listing [scan "PICKED UP" "2026-01-01", scan "IN TRANSIT" "2026-01-02"]) "UB1" none = .ok reply ∧
    reply.trackingHistory.length = 2 := by
  refine ((tracking_returns_iff (conforms_listing _)).2 (listing _) rfl .ascii newYear 0 "UB1" none).mpr ?_
  unfold DatesParse
  decide

/-- One date that cannot be read costs the whole reply. -/
theorem tracking_throws_on_date :
    ¬ ∀ (fields : List (String × Json)), conforms fields = true →
      ∀ body : UrbaneBoltTrackingResponse, body.rawResponse = .object fields →
      ∀ (js : JsText) (parseDate : String → Option Int) (now : Int) (awbNumber : String)
        (orderId : Option String),
      ∃ reply, toNormalizedTrackingResponse js parseDate now body awbNumber orderId = .ok reply ∧
        reply.trackingHistory.length = body.rawEvents.length := by
  intro claim
  obtain ⟨reply, read, -⟩ := claim _ (conforms_listing _)
    (listing [scan "PICKED UP" "2026-01-01", scan "DELIVERED" "31/12/2026 18:30"]) rfl .ascii newYear 0
    "UB1" none
  have thrown : toNormalizedTrackingResponse .ascii newYear 0
      (listing [scan "PICKED UP" "2026-01-01", scan "DELIVERED" "31/12/2026 18:30"]) "UB1" none =
    .error (.error "Invalid time value") := rfl
  rw [thrown] at read
  contradiction

/-! ## The status of the last event -/

def scanTime? (parseDate : String → Option Int) (evt : UrbaneBoltTrackingEvent) : Option Int :=
  (scanDate evt).bind parseDate

/-- A body of the declared type that states no status of its own, and events with timestamps that can be
read and are pairwise different. -/
structure Timed (parseDate : String → Option Int) (body : UrbaneBoltTrackingResponse) : Prop where
  typed : ∃ fields, body.rawResponse = .object fields ∧ conforms fields = true
  unstated : Json.firstTruthy (statusFields body.rawResponse) = none
  filled : body.rawEvents ≠ []
  read : ∀ evt ∈ body.rawEvents, (scanTime? parseDate evt).isSome
  different : (body.rawEvents.map (scanTime? parseDate)).Nodup

structure Latest (parseDate : String → Option Int) (rawEvents : List UrbaneBoltTrackingEvent)
    (evt : UrbaneBoltTrackingEvent) : Prop where
  mem : evt ∈ rawEvents
  greatest : ∀ other ∈ rawEvents, ∀ a ∈ scanTime? parseDate other, ∀ b ∈ scanTime? parseDate evt, a ≤ b

def trackedStatus (js : JsText) (parseDate : String → Option Int) (now : Int) (awbNumber : String)
    (orderId : Option String) (body : UrbaneBoltTrackingResponse) : Except Thrown ShipmentStatus :=
  (toNormalizedTrackingResponse js parseDate now body awbNumber orderId).map (·.status)

section
variable {parseDate : String → Option Int} {body : UrbaneBoltTrackingResponse}

theorem Timed.parse (timed : Timed parseDate body) : DatesParse parseDate body.rawEvents := by
  intro evt mem text stated
  have read := timed.read evt mem
  rwa [scanTime?, Option.mem_def.mp stated, Option.bind_some] at read

variable (js : JsText) (now : Int) (awbNumber : String) (orderId : Option String)

theorem Timed.trackedStatus_eq (timed : Timed parseDate body) : ∃ last,
    body.rawEvents.getLast? = some last ∧
      trackedStatus js parseDate now awbNumber orderId body = .ok (scanStatus js last) := by
  obtain ⟨fields, raw, typed⟩ := timed.typed
  obtain ⟨reply, read⟩ : ∃ reply,
      toNormalizedTrackingResponse js parseDate now body awbNumber orderId = .ok reply :=
    (ok_iff_of_conforms typed raw).mpr timed.parse
  obtain ⟨history, resolved⟩ := toNormalizedTrackingResponse_ok read
  refine ⟨_, List.getLast?_eq_some_getLast timed.filled, ?_⟩
  rw [resolveCurrentTrackingStatus, timed.unstated, history, List.getLast?_map,
    List.getLast?_eq_some_getLast timed.filled] at resolved
  have status := Except.ok.inj resolved
  simp only [Option.map_some, Option.getD_some, timelineItem_status] at status
  rw [trackedStatus, read, status]
  rfl

theorem Timed.listing {rawEvents : List UrbaneBoltTrackingEvent} (timed : Timed parseDate body)
    (perm : rawEvents.Perm body.rawEvents) : Timed parseDate (listing rawEvents) where
  typed := ⟨_, rfl, conforms_listing rawEvents⟩
  unstated := rfl
  filled empty := timed.filled (List.nil_perm.mp (empty ▸ perm))
  read evt mem := timed.read evt (perm.mem_iff.mp mem)
  different := (perm.map _).nodup_iff.mpr timed.different

theorem Timed.exists_latest (timed : Timed parseDate body) :
    ∃ evt, Latest parseDate body.rawEvents evt := by
  let instant (evt : UrbaneBoltTrackingEvent) : Int := (scanTime? parseDate evt).getD 0
  obtain ⟨evt, greatest⟩ : ∃ evt, evt ∈ body.rawEvents.argmax instant := by
    refine Option.ne_none_iff_exists'.mp fun none => timed.filled (List.argmax_eq_none.mp none)
  refine ⟨evt, List.argmax_mem greatest, fun other mem a stated b own => ?_⟩
  have le := List.le_of_mem_argmax mem greatest
  simp only [instant, Option.mem_def.mp stated, Option.mem_def.mp own, Option.getD_some] at le
  exact le

/-- The status of the latest event comes out exactly if the event listed last has the same, and in every
order of the list exactly if all the events have. -/
theorem trackedStatus_latest_iff (timed : Timed parseDate body) : ∃ evt,
    Latest parseDate body.rawEvents evt ∧
    (trackedStatus js parseDate now awbNumber orderId body = .ok (scanStatus js evt) ↔
      ∀ last ∈ body.rawEvents.getLast?, scanStatus js last = scanStatus js evt) ∧
    ((∀ other, Timed parseDate other → other.rawEvents.Perm body.rawEvents →
        trackedStatus js parseDate now awbNumber orderId other = .ok (scanStatus js evt)) ↔
      ∀ other ∈ body.rawEvents, scanStatus js other = scanStatus js evt) := by
  obtain ⟨evt, latest⟩ := timed.exists_latest
  refine ⟨evt, latest, ?_, fun each other mem => ?_, fun same other timed' perm => ?_⟩
  · obtain ⟨last, listed, tracked⟩ := timed.trackedStatus_eq js now awbNumber orderId
    simp [listed, tracked]
  · obtain ⟨before, after, split⟩ := List.append_of_mem mem
    have perm : (before ++ after ++ [other]).Perm body.rawEvents := by
      rw [split]
      exact List.perm_append_singleton _ _ |>.trans List.perm_middle.symm
    have timed' := timed.listing perm
    obtain ⟨last, listed, tracked⟩ := timed'.trackedStatus_eq js now awbNumber orderId
    obtain rfl : other = last := by
      simpa [UrbaneBoltMapper.listing] using listed
    exact Except.ok.inj (tracked.symm.trans (each _ timed' perm))
  · obtain ⟨last, listed, tracked⟩ := timed'.trackedStatus_eq js now awbNumber orderId
    rw [tracked, same last (perm.mem_iff.mp (List.mem_of_getLast? listed))]

end

theorem timed_listing_scans (first second : String) :
    Timed newYear (listing [scan first "2026-01-02", scan second "2026-01-01"]) where
  typed := ⟨_, rfl, conforms_listing _⟩
  unstated := rfl
  filled := List.cons_ne_nil _ _
  read evt mem := by
    simp only [listing, List.mem_cons, List.not_mem_nil, or_false] at mem
    rcases mem with rfl | rfl <;> rfl
  different := by
    change [some (1767312000000 : Int), some 1767225600000].Nodup
    decide

theorem trackedStatus_same_scans :
    trackedStatus .ascii newYear 0 "UB1" none
      (listing [scan "REACHED HUB" "2026-01-02", scan "IN TRANSIT" "2026-01-01"]) = .ok .inTransit := by
  obtain ⟨evt, latest, listedLast, -⟩ := trackedStatus_latest_iff .ascii 0 "UB1" none
    (timed_listing_scans "REACHED HUB" "IN TRANSIT")
  have each : ∀ other ∈ [scan "REACHED HUB" "2026-01-02", scan "IN TRANSIT" "2026-01-01"],
      scanStatus .ascii other = .inTransit := by
    refine List.forall_mem_cons.mpr ⟨by decide, List.forall_mem_singleton.mpr (by decide)⟩
  rw [← each evt latest.mem]
  exact listedLast.mpr fun last listed =>
    (each last (List.mem_of_getLast? listed)).trans (each evt latest.mem).symm

/-- The newest event is listed first, and the status is that of the oldest. -/
theorem trackedStatus_newest_first :
    ¬ ∀ (js : JsText) (parseDate : String → Option Int) (now : Int) (awbNumber : String)
      (orderId : Option String) (body : UrbaneBoltTrackingResponse) (evt : UrbaneBoltTrackingEvent),
      Timed parseDate body → Latest parseDate body.rawEvents evt →
        trackedStatus js parseDate now awbNumber orderId body = .ok (scanStatus js evt) := by
  intro claim
  have latest : Latest newYear (listing [scan "DELIVERED" "2026-01-02",
      scan "PICKED UP" "2026-01-01"]).rawEvents (scan "DELIVERED" "2026-01-02") := by
    refine ⟨List.mem_cons_self, ?_⟩
    refine List.forall_mem_cons.mpr ⟨?_, List.forall_mem_singleton.mpr ?_⟩
    all_goals
      rintro a ⟨⟩ b ⟨⟩
      decide
  have stated := claim .ascii newYear 0 "UB1" none _ _ (timed_listing_scans "DELIVERED" "PICKED UP") latest
  exact absurd stated (by decide)

end UrbaneBoltMapper
end CourierPlatform
