import CourierPlatform.Model.Adapters
import CourierPlatform.Proofs.CoreTables
import CourierPlatform.Spec.Responses
import CourierPlatform.Spec.Tracking
import Mathlib.Data.List.Nodup
import Mathlib.Data.List.Perm.Subperm

/-! What resolved polls leave behind, whatever else runs and fails beside them. -/
namespace CourierPlatform
open Library

def TrackOrder.Recording (w : World) : TrackOrder → Prop
  | updateStatus order reply => reply.orderId = order.orderId
  | findEvent order reply event rest => reply.orderId = order.orderId ∧
    ∃ before, reply.trackingHistory = before ++ event :: rest ∧
      ∀ scan ∈ before, scan.scanKey order.orderId ∈ w.scanKeys
  | createEvent order reply event rest => reply.orderId = order.orderId ∧
    ∃ before, reply.trackingHistory = before ++ event :: rest ∧
      ∀ scan ∈ before, scan.scanKey order.orderId ∈ w.scanKeys
  | resolved reply => ∀ scan ∈ reply.trackingHistory, scan.scanKey reply.orderId ∈ w.scanKeys
  | _ => True

def Task.Recording (w : World) : Task → Prop
  | trackOrder call => call.Recording w
  | _ => True

section
variable {env : Env} {w w' : World} {call call' : TrackOrder} {task : Task} {a : Answer}
  {s t : State} {l : Label} {order : Order} {reply : NormalizedTrackingResponse}

theorem TrackOrder.Recording.mono (h : call.Recording w) (grown : w.scanKeys ⊆ w'.scanKeys) :
    call.Recording w' := by
  cases call with
  | findEvent =>
    obtain ⟨own, before, split, known⟩ := h
    exact ⟨own, before, split, fun scan mem => grown (known scan mem)⟩
  | createEvent =>
    obtain ⟨own, before, split, known⟩ := h
    exact ⟨own, before, split, fun scan mem => grown (known scan mem)⟩
  | resolved => exact fun scan mem => grown (h scan mem)
  | _ => exact h

theorem Task.Recording.mono (h : task.Recording w) (grown : w.scanKeys ⊆ w'.scanKeys) :
    task.Recording w' := by
  cases task with
  | trackOrder call => exact TrackOrder.Recording.mono h grown
  | _ => trivial

theorem TrackingService.nextEvent_recording {before rest : List TrackingEventItem}
    (own : reply.orderId = order.orderId) (split : reply.trackingHistory = before ++ rest)
    (known : ∀ scan ∈ before, scan.scanKey order.orderId ∈ w.scanKeys) :
    (nextEvent order reply rest).Recording w := by
  cases rest with
  | nil =>
    intro scan mem
    rw [split, List.append_nil] at mem
    rw [own]
    exact known scan mem
  | cons event rest => exact ⟨own, before, split, known⟩

theorem TrackingService.nextEvent_recording_snoc {event : TrackingEventItem}
    {rest before : List TrackingEventItem} (own : reply.orderId = order.orderId)
    (split : reply.trackingHistory = before ++ event :: rest)
    (known : ∀ scan ∈ before, scan.scanKey order.orderId ∈ w.scanKeys)
    (recorded : event.scanKey order.orderId ∈ w.scanKeys) :
    (nextEvent order reply rest).Recording w := by
  have all : ∀ scan ∈ before ++ [event], scan.scanKey order.orderId ∈ w.scanKeys := by
    intro scan mem
    rcases List.mem_append.mp mem with earlier | last
    · exact known scan earlier
    · rw [List.mem_singleton.mp last]
      exact recorded
  exact nextEvent_recording own (by simp [split]) all

theorem TrackingService.Moves.recording (moved : TrackingService.Moves env w call a w' call')
    (h : call.Recording w) (own : (Task.trackOrder call).repliesOwn a = true) : call'.Recording w' := by
  cases moved with
  | read => trivial
  | declined => trivial
  | tracked =>
    have named : _ = _ := of_decide_eq_true own
    unfold updateOrderStatusIfChanged
    split
    · exact named
    · exact nextEvent_recording named rfl fun _ mem => absurd mem List.not_mem_nil
  | refused => trivial
  | statusUpdated => exact nextEvent_recording h rfl fun _ mem => absurd mem List.not_mem_nil
  | eventFound recorded =>
    obtain ⟨own, before, split, known⟩ := h
    exact nextEvent_recording_snoc own split known (any_sameEvent.mp recorded)
  | eventMissing missing => exact h
  | @eventAdded order reply event rest =>
    obtain ⟨own, before, split, known⟩ := h
    refine nextEvent_recording_snoc own split (fun scan mem => ?_) ?_ <;> rw [scanKeys_createEvent]
    · exact List.mem_append_left _ (known scan mem)
    · exact List.mem_append_right _ List.mem_cons_self
  | failed awaits => trivial

theorem State.Moves.scanKeys (moves : State.Moves env s l t) : s.world.scanKeys ⊆ t.world.scanKeys :=
  List.map_subset _ moves.events.subset

theorem State.recording_next (h : ∀ task ∈ s.tasks, task.Recording s.world)
    (own : s.repliesOwn l = true) (moves : State.Moves env s l t) :
    ∀ task ∈ t.tasks, task.Recording t.world := by
  refine moves.forall_tasks ?_ ?_ ?_ ?_
  · intro j task here _
    exact (h task (List.mem_of_getElem? here)).mono moves.scanKeys
  · intro request _
    cases request <;> trivial
  · intro task internal
    cases task <;> trivial
  · rintro i a task task' rfl here moved
    have known := h task (List.mem_of_getElem? here)
    cases moved with
    | trackOrder moved =>
      simp only [repliesOwn, here, Option.all_some] at own
      exact moved.recording known own
    | _ => trivial

/-! ## The mock partner -/

def MockCourierAdapter.scanKeys (x : String) (now : Int) : List ScanKey :=
  (trackingHistory now).map (·.scanKey x)

theorem MockCourierAdapter.scanKeys_nodup (x : String) {nows : List Int} (distinct : nows.Nodup) :
    (nows.flatMap (scanKeys x)).Nodup := by
  refine List.nodup_flatMap.mpr ⟨fun now _ => ?_, distinct.imp fun {now later} differs => ?_⟩
  · simp [scanKeys, trackingHistory, TrackingEventItem.scanKey]
  · intro key mem mem'
    simp only [scanKeys, trackingHistory, TrackingEventItem.scanKey, List.map_cons, List.map_nil,
      List.mem_cons, List.not_mem_nil, or_false] at mem mem'
    rcases mem with rfl | rfl | rfl <;>
      simp only [ScanKey.mk.injEq, reduceCtorEq, true_and, false_and, or_false, false_or] at mem' <;>
      omega

theorem MockCourierAdapter.length_scanKeys (x : String) (nows : List Int) :
    (nows.flatMap (scanKeys x)).length = 3 * nows.length := by
  induction nows with
  | nil => rfl
  | cons now rest ih =>
    rw [List.flatMap_cons, List.length_append, ih, List.length_cons]
    simp only [scanKeys, trackingHistory, List.map_cons, List.map_nil, List.length_cons, List.length_nil]
    omega

theorem MockCourierAdapter.trackShipment_orderId (now : Int) (awbNumber x : String) :
    (trackShipment now awbNumber (some x)).orderId = x := by
  by_cases empty : x = "" <;> simp [trackShipment, orDefault, empty]

/-- Of a poll that has resolved, in whatever traffic and beside whatever failures, every scan is in the
table. The mock partner dates its scans from the poll, so none of a later poll is ever recognised: each
instant at which it is polled adds three. -/
theorem resolved_polls_recorded {w : World}
    (reach : (platform env).Reaches (fun s l => s.repliesOwn l = true) (.init w) s) :
    (∀ reply, .trackOrder (.resolved reply) ∈ s.tasks → ∀ scan ∈ reply.trackingHistory,
      scan.scanKey reply.orderId ∈ s.world.scanKeys) ∧
    ∀ (x : String) (nows : List Int), nows.Nodup →
      (∀ now ∈ nows, ∃ awbNumber,
        .trackOrder (.resolved (MockCourierAdapter.trackShipment now awbNumber (some x))) ∈ s.tasks) →
      3 * nows.length ≤ s.world.events.countP (·.orderId = x) := by
  have recording : ∀ task ∈ s.tasks, task.Recording s.world := by
    refine reach.invariant (fun s => ∀ task ∈ s.tasks, task.Recording s.world)
      (fun _ mem => absurd mem List.not_mem_nil) ?_
    intro a l b inv own moved
    exact State.recording_next inv own (.of_next moved)
  refine ⟨fun reply mem => recording _ mem, fun x nows distinct polled => ?_⟩
  have known : nows.flatMap (MockCourierAdapter.scanKeys x) ⊆
      (s.world.events.filter (·.orderId = x)).map TrackingEvent.scanKey := by
    intro key mem
    obtain ⟨now, asked, mem⟩ := List.mem_flatMap.mp mem
    obtain ⟨scan, reported, rfl⟩ := List.mem_map.mp mem
    obtain ⟨awbNumber, resolved⟩ := polled now asked
    have recorded := recording _ resolved scan reported
    rw [MockCourierAdapter.trackShipment_orderId] at recorded
    obtain ⟨event, stored, same⟩ := List.mem_map.mp recorded
    refine List.mem_map.mpr ⟨event, List.mem_filter.mpr ⟨stored, ?_⟩, same⟩
    exact decide_eq_true (congrArg ScanKey.orderId same)
  have shorter := ((MockCourierAdapter.scanKeys_nodup x distinct).subperm known).length_le
  rwa [MockCourierAdapter.length_scanKeys, List.length_map, ← List.countP_eq_length_filter] at shorter

end

def Task.report? : Task → Option NormalizedTrackingResponse
  | trackOrder (.resolved reply) => some reply
  | _ => none

theorem Task.eq_of_report? {task : Task} {reply : NormalizedTrackingResponse}
    (h : task.report? = some reply) : task = .trackOrder (.resolved reply) := by
  cases task with
  | trackOrder call =>
    cases call with
    | resolved own => rw [Option.some.inj h]
    | _ => contradiction
  | _ => contradiction

theorem resolved_polls_recorded_twice :
    ∃ s : State, s.tasks.length = 2 ∧ 6 ≤ s.world.events.countP (·.orderId = "A-1") := by
  let reply (now : Int) := MockCourierAdapter.trackShipment now "MCK1" (some "A-1")
  obtain ⟨s, reach, test⟩ := Machine.Reaches.of_run_any production
    (fun s l => s.repliesOwn l = true) (.init bookedParcel)
    ([.start (.trackOrder "A-1"), .settle 0 .ok, .settle 0 (.tracked (reply 0)), .settle 0 .ok] ++
      List.replicate 6 (.settle 0 .ok) ++
      [.tick 1, .start (.trackOrder "A-1"), .settle 1 .ok, .settle 1 (.tracked (reply 1))] ++
      List.replicate 6 (.settle 1 .ok))
    (fun s => s.tasks.map Task.report? = [some (reply 0), some (reply 1)]) (by decide)
  have reported : s.tasks.map Task.report? = [some (reply 0), some (reply 1)] := of_decide_eq_true test
  have resolved (now : Int) (mem : some (reply now) ∈ [some (reply 0), some (reply 1)]) :
      .trackOrder (.resolved (reply now)) ∈ s.tasks := by
    rw [← reported] at mem
    obtain ⟨task, here, same⟩ := List.mem_map.mp mem
    exact Task.eq_of_report? same ▸ here
  have counted := (resolved_polls_recorded reach).2 "A-1" [0, 1] (by decide) (by
    intro now mem
    refine ⟨"MCK1", resolved now ?_⟩
    rcases List.mem_pair.mp mem with rfl | rfl
    · exact List.mem_cons_self
    · exact List.mem_cons_of_mem _ List.mem_cons_self)
  refine ⟨s, ?_, counted⟩
  have length := congrArg List.length reported
  rwa [List.length_map] at length

end CourierPlatform
