import CourierPlatform.Proofs.Polls
import CourierPlatform.Spec.Convergence

/-! Calls of `trackOrder` that may be stopped at any point. What they have written is always a part of
what one call writes, so the next one only adds what is missing. -/
namespace CourierPlatform
open Js Library TrackingService

structure World.Partly (env : Env) (row : Order) (reply : NormalizedTrackingResponse) (w start : World) :
    Prop where
  clock : start.now ≤ w.now
  orders : w.orders = start.orders ∨ row.status ≠ reply.status ∧ ∃ written, start.now ≤ written ∧
    written ≤ w.now ∧
    w.orders = ({ start with now := written }.updateOrder env row (statusPatch reply)).orders
  events : recordAll row reply w.events reply.trackingHistory =
    recordAll row reply start.events reply.trackingHistory
  batches : w.batches = start.batches

structure World.Recorded (row : Order) (reply : NormalizedTrackingResponse) (w : World)
    (items : List TrackingEventItem) : Prop where
  status : ∃ current, w.findOne row.orderId = some current ∧ current.status = reply.status
  known : ∀ event ∈ items, event.scanKey row.orderId ∈ w.scanKeys

/-- How far the live call has come. -/
inductive TrackOrder.Progress (row : Order) (reply : NormalizedTrackingResponse) (w : World) :
    TrackOrder → Prop where
  | fetching : Progress row reply w (.fetchOrder row.orderId)
  | asking {order awbNumber adapter} (loaded : w.findOne row.orderId = some order) :
      Progress row reply w (.trackShipment order awbNumber adapter)
  | updating {order} (loaded : w.findOne row.orderId = some order)
      (differs : order.status ≠ reply.status) : Progress row reply w (.updateStatus order reply)
  | finding {order before event rest} (same : row.SameShipment order)
      (recorded : w.Recorded row reply before) (split : reply.trackingHistory = before ++ event :: rest) :
      Progress row reply w (.findEvent order reply event rest)
  | creating {order before event rest} (same : row.SameShipment order)
      (recorded : w.Recorded row reply before) (split : reply.trackingHistory = before ++ event :: rest)
      (missing : event.scanKey order.orderId ∉ w.scanKeys) :
      Progress row reply w (.createEvent order reply event rest)
  | resolved (recorded : w.Recorded row reply reply.trackingHistory) :
      Progress row reply w (.resolved reply)

def Answer.goesOn (reply : NormalizedTrackingResponse) : Answer → Prop
  | ok => True
  | tracked response => response = reply
  | _ => False

section
variable {env : Env} {row order : Order} {reply : NormalizedTrackingResponse} {start w w' : World}
  {call call' : TrackOrder} {a : Answer} {event : TrackingEventItem}
  {before items rest : List TrackingEventItem} {s t : State} {l : Label}

theorem Order.write_statusPatch (env : Env) (written : Int) (differs : row.status ≠ reply.status) :
    row.write env.updateMode written row (statusPatch reply) =
      { row with status := reply.status, updatedAt := written } := by
  have status : env.updateMode.column row.status (some reply.status) row.status = reply.status :=
    UpdateMode.column_of_ne _ differs.symm _
  have issued : env.updateMode.skips row (statusPatch reply) = false := by
    simp [UpdateMode.skips, statusPatch, differs.symm]
  unfold Order.write
  rw [issued]
  simp [statusPatch, status]

namespace World

theorem findOne_statusUpdated (env : Env) (stored : w.findOne row.orderId = some row)
    (differs : row.status ≠ reply.status) :
    (w.updateOrder env row (statusPatch reply)).findOne row.orderId =
      some { row with status := reply.status, updatedAt := w.now } := by
  rw [findOne_updateOrder, if_pos rfl, stored, Option.map_some, Order.write_statusPatch env w.now differs]

theorem Partly.refl (env : Env) (row : Order) (reply : NormalizedTrackingResponse) (w : World) :
    w.Partly env row reply w :=
  ⟨Int.le_refl _, .inl rfl, rfl, rfl⟩

theorem Partly.current (h : w.Partly env row reply start) (stored : start.findOne row.orderId = some row) :
    ∃ order, w.findOne row.orderId = some order ∧ row.SameShipment order ∧
      (order.status ≠ reply.status → order = row ∧ w.orders = start.orders) := by
  unfold findOne
  rcases h.orders with same | ⟨differs, written, -, -, same⟩
  · rw [same]
    exact ⟨row, stored, .refl row, fun _ => ⟨rfl, rfl⟩⟩
  · rw [same]
    exact ⟨_, findOne_statusUpdated env stored differs, ⟨rfl, rfl, rfl⟩, fun stays => absurd rfl stays⟩

theorem Partly.congr (h : w.Partly env row reply start) (clock : w.now ≤ w'.now)
    (orders : w'.orders = w.orders) (events : w'.events = w.events) (batches : w'.batches = w.batches) :
    w'.Partly env row reply start := by
  refine ⟨Int.le_trans h.clock clock, ?_, events ▸ h.events, batches.trans h.batches⟩
  rcases h.orders with same | ⟨differs, written, since, before, same⟩
  · exact .inl (orders.trans same)
  · exact .inr ⟨differs, written, since, Int.le_trans before clock, orders.trans same⟩

theorem Recorded.congr (h : w.Recorded row reply items) (orders : w'.orders = w.orders)
    (events : w'.events = w.events) : w'.Recorded row reply items := by
  refine ⟨?_, ?_⟩
  · unfold findOne
    rw [orders]
    exact h.status
  · unfold scanKeys
    rw [events]
    exact h.known

theorem Recorded.recordAll (h : w.Recorded row reply before) :
    TrackingService.recordAll row reply w.events (before ++ items) =
      TrackingService.recordAll row reply w.events items := by
  unfold TrackingService.recordAll
  rw [List.map_append, insertAllNew_append_of_known]
  intro added mem
  obtain ⟨event, listed, rfl⟩ := List.mem_map.mp mem
  exact h.known event listed

theorem Recorded.snoc (h : w.Recorded row reply before) (known : event.scanKey row.orderId ∈ w.scanKeys) :
    w.Recorded row reply (before ++ [event]) := by
  refine ⟨h.status, fun other mem => ?_⟩
  rcases List.mem_append.mp mem with earlier | last
  · exact h.known other earlier
  · rw [List.mem_singleton.mp last]
    exact known

theorem Recorded.createEvent (event : TrackingEventItem) (other : NormalizedTrackingResponse) (h : w.Recorded row reply before)
    (own : order.orderId = row.orderId) :
    (w.createEvent (newEvent order other event)).Recorded row reply (before ++ [event]) := by
  have more : (w.createEvent (newEvent order other event)).Recorded row reply before := by
    refine ⟨h.status, fun earlier mem => ?_⟩
    rw [scanKeys_createEvent]
    exact List.mem_append_left _ (h.known earlier mem)
  apply more.snoc
  rw [scanKeys_createEvent, own]
  exact List.mem_append_right _ (List.mem_singleton_self _)

theorem Partly.createEvent (h : w.Partly env row reply start) (same : row.SameShipment order)
    (recorded : w.Recorded row reply before) (split : reply.trackingHistory = before ++ event :: rest)
    (missing : event.scanKey order.orderId ∉ w.scanKeys) :
    (w.createEvent (newEvent order reply event)).Partly env row reply start := by
  refine ⟨h.clock, h.orders, ?_, h.batches⟩
  rw [← h.events, split, recorded.recordAll, recordAll_new same missing, ← List.singleton_append,
    ← List.append_assoc]
  exact (recorded.createEvent event reply same.orderId).recordAll

end World

theorem TrackOrder.Progress.congr (h : call.Progress row reply w) (orders : w'.orders = w.orders)
    (events : w'.events = w.events) : call.Progress row reply w' := by
  have same : w'.findOne row.orderId = w.findOne row.orderId := by
    unfold World.findOne
    rw [orders]
  have keys : w'.scanKeys = w.scanKeys := by
    unfold World.scanKeys
    rw [events]
  cases h with
  | fetching => exact .fetching
  | asking loaded => exact .asking (same.trans loaded)
  | updating loaded differs => exact .updating (same.trans loaded) differs
  | finding own recorded split => exact .finding own (recorded.congr orders events) split
  | creating own recorded split missing =>
    exact .creating own (recorded.congr orders events) split (keys ▸ missing)
  | resolved recorded => exact .resolved (recorded.congr orders events)

namespace TrackingService

theorem nextEvent_progress (same : row.SameShipment order) (recorded : w.Recorded row reply before)
    (split : reply.trackingHistory = before ++ items) :
    (nextEvent order reply items).Progress row reply w := by
  cases items with
  | nil =>
    rw [List.append_nil] at split
    exact .resolved (split ▸ recorded)
  | cons event rest => exact .finding same recorded split

/-- The step lemma: what a call writes is a part of what one call writes, and only a failure takes it off
its way. -/
theorem Moves.progress (moved : Moves env w call a w' call') (trackable : row.Trackable env)
    (stored : start.findOne row.orderId = some row) (partly : w.Partly env row reply start)
    (answered : ∀ response, a = .tracked response → response = reply) (h : call.Progress row reply w) :
    w'.Partly env row reply start ∧
      (call'.Progress row reply w' ∨ ¬ a.goesOn reply ∧ ∃ error, call' = .rejected error) := by
  cases moved with
  | read found =>
    cases h with
    | fetching => exact ⟨partly, .inl (.asking found)⟩
  | declined why =>
    cases h with
    | fetching =>
      obtain ⟨order, found, same, -⟩ := partly.current stored
      obtain ⟨awbNumber, awb⟩ := trackable.awb
      obtain ⟨adapter, registered⟩ := trackable.partner
      rw [found, afterFetch] at why
      simp only [same.awbNumber, awb, same.courierPartner, registered] at why
      contradiction
  | @tracked order number adapter response =>
    cases h with
    | asking loaded =>
      obtain rfl := answered response rfl
      refine ⟨partly.congr (Int.le_refl _) rfl rfl rfl, .inl ?_⟩
      obtain ⟨current, found, same, -⟩ := partly.current stored
      cases loaded.symm.trans found
      unfold updateOrderStatusIfChanged
      split
      next differs => exact .updating loaded differs
      next agrees =>
        have status : order.status = response.status := not_not.mp agrees
        exact nextEvent_progress same ⟨⟨order, loaded, status⟩, List.forall_mem_nil _⟩ rfl
  | refused => exact ⟨partly.congr (Int.le_refl _) rfl rfl rfl, .inr ⟨id, _, rfl⟩⟩
  | statusUpdated =>
    cases h with
    | updating loaded differs =>
      obtain ⟨current, found, -, unwritten⟩ := partly.current stored
      cases loaded.symm.trans found
      obtain ⟨rfl, same⟩ := unwritten differs
      have written := World.findOne_statusUpdated env loaded differs
      refine ⟨⟨partly.clock, .inr ⟨differs, w.now, partly.clock, Int.le_refl _, ?_⟩, partly.events,
        partly.batches⟩, .inl ?_⟩
      · unfold World.updateOrder
        rw [same]
      · exact nextEvent_progress ⟨rfl, rfl, rfl⟩ ⟨⟨_, written, rfl⟩, List.forall_mem_nil _⟩ rfl
  | eventFound found =>
    cases h with
    | finding same recorded split =>
      have known := any_sameEvent.mp found
      rw [same.orderId] at known
      exact ⟨partly, .inl (nextEvent_progress same (recorded.snoc known) (split.trans (by simp)))⟩
  | eventMissing missing =>
    cases h with
    | finding same recorded split =>
      exact ⟨partly, .inl (.creating same recorded split fun known => missing (any_sameEvent.mpr known))⟩
  | @eventAdded order _ event rest =>
    cases h with
    | creating same recorded split missing =>
      have added := recorded.createEvent event reply same.orderId
      refine ⟨partly.createEvent same recorded split missing, .inl ?_⟩
      exact nextEvent_progress same added (split.trans (by simp))
  | failed awaits => exact ⟨partly, .inr ⟨id, _, rfl⟩⟩

theorem Moves.recorded (moved : Moves env w call a w' call') (h : call.Progress row reply w)
    (recorded : w.Recorded row reply items) : w'.Recorded row reply items := by
  cases moved with
  | statusUpdated =>
    cases h with
    | updating loaded differs =>
      obtain ⟨current, found, agrees⟩ := recorded.status
      cases loaded.symm.trans found
      exact absurd agrees differs
  | @eventAdded order response event rest =>
    refine ⟨recorded.status, fun earlier mem => ?_⟩
    rw [scanKeys_createEvent]
    exact List.mem_append_left _ (recorded.known earlier mem)
  | _ => exact recorded.congr rfl rfl

end TrackingService

/-! ## Runs -/

theorem State.idle_concat {tasks : List Task} {task : Task} (settled : ∀ task ∈ tasks, task.settled = true)
    (last : task.settled = true) : (State.mk w (tasks ++ [task])).idle = true := by
  apply List.all_eq_true.mpr
  intro other mem
  rcases List.mem_append.mp mem with earlier | here
  · exact settled other earlier
  · rw [List.mem_singleton.mp here]
    exact last

structure State.Tracking (env : Env) (row : Order) (reply : NormalizedTrackingResponse) (start : World)
    (s : State) : Prop where
  partly : s.world.Partly env row reply start
  live : s.idle = true ∨ ∃ before call, s.tasks = before ++ [.trackOrder call] ∧
    (∀ task ∈ before, task.settled = true) ∧ call.Progress row reply s.world
  returned : s.Returned reply → s.world.Recorded row reply reply.trackingHistory

namespace State.Tracking

theorem init (env : Env) (row : Order) (reply : NormalizedTrackingResponse) (w : World) :
    (State.init w).Tracking env row reply w :=
  ⟨.refl env row reply w, .inl rfl, fun none => by contradiction⟩

theorem settle {live : List Task} (h : s.Tracking env row reply start) (trackable : row.Trackable env)
    (stored : start.findOne row.orderId = some row) (tasks : s.tasks = live ++ [.trackOrder call])
    (settled : ∀ task ∈ live, task.settled = true) (progress : call.Progress row reply s.world)
    (answered : ∀ response, a = .tracked response → response = reply)
    (moved : TrackingService.Moves env s.world call a w' call') :
    Tracking env row reply start ⟨w', live ++ [.trackOrder call']⟩ := by
  obtain ⟨partly, went⟩ := moved.progress trackable stored h.partly answered progress
  refine ⟨partly, ?_, ?_⟩
  · rcases went with onward | ⟨-, error, rfl⟩
    · exact .inr ⟨live, call', rfl, settled, onward⟩
    · exact .inl (State.idle_concat settled rfl)
  · intro returned
    rcases List.mem_append.mp returned with earlier | last
    · apply moved.recorded progress
      apply h.returned
      unfold State.Returned
      rw [tasks]
      exact List.mem_append_left _ earlier
    · cases List.mem_singleton.mp last
      rcases went with onward | ⟨-, error, other⟩
      · cases onward with
        | resolved recorded => exact recorded
      · contradiction

theorem crash (dead : List Nat) (h : s.Tracking env row reply start) :
    Tracking env row reply start
      ⟨s.world, s.tasks.mapIdx fun i task => if i ∈ dead ∧ task.isApi then .crashed else task⟩ := by
  have settled {tasks : List Task} (all : ∀ task ∈ tasks, task.settled = true) :
      ∀ task ∈ tasks.mapIdx fun i task => if i ∈ dead ∧ task.isApi then .crashed else task,
        task.settled = true := by
    intro task mem
    obtain ⟨i, inside, rfl⟩ := List.mem_mapIdx.mp mem
    split
    · rfl
    · exact all _ (List.getElem_mem inside)
  refine ⟨h.partly, ?_, fun returned => h.returned ?_⟩
  · rcases h.live with idle | ⟨before, call, tasks, all, progress⟩
    · exact .inl (List.all_eq_true.mpr (settled (List.all_eq_true.mp idle)))
    · rw [tasks, List.mapIdx_concat]
      have earlier := settled all
      split
      · exact .inl (State.idle_concat earlier rfl)
      · exact .inr ⟨_, call, rfl, earlier, progress⟩
  · obtain ⟨i, inside, same⟩ := List.mem_mapIdx.mp returned
    split at same
    · contradiction
    · have there := List.getElem_mem inside
      rwa [same] at there

theorem next (h : s.Tracking env row reply start) (trackable : row.Trackable env)
    (stored : start.findOne row.orderId = some row) (allowed : s.tracksAgain row.orderId reply l)
    (moves : State.Moves env s l t) : t.Tracking env row reply start := by
  cases moves with
  | started request =>
    cases request with
    | trackOrder orderId =>
      obtain ⟨rfl, idle⟩ := allowed
      refine ⟨h.partly, .inr ⟨s.tasks, _, rfl, List.all_eq_true.mp idle, .fetching⟩, fun returned => ?_⟩
      rcases List.mem_append.mp returned with earlier | last
      · exact h.returned earlier
      · cases List.mem_singleton.mp last
    | _ => exact allowed.elim
  | @settled i a task w' task' awaiting moved =>
    have unsettled := moved.unsettled
    rcases h.live with idle | ⟨before, call, tasks, all, progress⟩
    · rw [State.settled_of_idle idle awaiting] at unsettled
      contradiction
    · rw [tasks] at awaiting
      rcases getElem?_concat_cases awaiting with earlier | ⟨rfl, same⟩
      · rw [all task (List.mem_of_getElem? earlier)] at unsettled
        contradiction
      · cases same
        cases moved with
        | trackOrder moved =>
          rw [tasks, List.set_append_right _ _ (Nat.le_refl _), Nat.sub_self]
          refine h.settle trackable stored tasks all progress ?_ moved
          rintro response rfl
          exact allowed
  | ticked ms =>
    have later : s.world.now ≤ s.world.now + ms := by omega
    refine ⟨h.partly.congr later rfl rfl rfl, ?_, fun returned => (h.returned returned).congr rfl rfl⟩
    rcases h.live with idle | ⟨before, call, tasks, all, progress⟩
    · exact .inl idle
    · exact .inr ⟨before, call, tasks, all, progress.congr rfl rfl⟩
  | died dead => exact h.crash dead
  | itemStarted => exact allowed.elim
  | collected => exact allowed.elim

theorem of_reaches (trackable : row.Trackable env) (stored : w.findOne row.orderId = some row)
    (ran : (platform env).Reaches (State.tracksAgain row.orderId reply) (.init w) s) :
    s.Tracking env row reply w := by
  apply ran.invariant (State.Tracking env row reply w) (.init env row reply w)
  intro a l b h allowed moved
  exact h.next trackable stored allowed (.of_next moved)

end State.Tracking

/-! ## The call returns -/

def TrackOrder.ahead (reply : NormalizedTrackingResponse) : TrackOrder → Nat
  | fetchOrder _ => 2 * reply.trackingHistory.length + 3
  | trackShipment .. => 2 * reply.trackingHistory.length + 2
  | updateStatus .. => 2 * reply.trackingHistory.length + 1
  | findEvent _ _ _ rest => 2 * rest.length + 2
  | createEvent _ _ _ rest => 2 * rest.length + 1
  | _ => 0

theorem nextEvent_ahead : (nextEvent order reply items).ahead reply ≤ 2 * items.length := by
  cases items with
  | nil => exact Nat.le_refl _
  | cons event rest => exact Nat.le_refl _

theorem TrackOrder.Progress.step (env : Env) (h : call.Progress row reply w)
    (live : call ≠ .resolved reply) :
    ∃ a w' call', a.goesOn reply ∧ TrackingService.step env w call a = some (w', call') ∧
      w'.now = w.now ∧ call'.ahead reply < call.ahead reply := by
  cases h with
  | fetching =>
    refine ⟨.ok, _, _, trivial, rfl, rfl, ?_⟩
    unfold afterFetch
    split
    · exact Nat.succ_pos _
    · split
      · exact Nat.succ_pos _
      · split
        · exact Nat.succ_pos _
        · exact Nat.lt_succ_self _
  | asking loaded =>
    refine ⟨.tracked reply, _, _, rfl, rfl, rfl, ?_⟩
    unfold updateOrderStatusIfChanged
    split
    · exact Nat.lt_succ_self _
    · exact Nat.lt_of_le_of_lt nextEvent_ahead (Nat.lt_add_of_pos_right Nat.two_pos)
  | updating loaded differs => exact ⟨.ok, _, _, trivial, rfl, rfl, Nat.lt_succ_of_le nextEvent_ahead⟩
  | finding same recorded split =>
    refine ⟨.ok, _, _, trivial, rfl, rfl, ?_⟩
    split
    · exact Nat.lt_of_le_of_lt nextEvent_ahead (Nat.lt_add_of_pos_right Nat.two_pos)
    · exact Nat.lt_succ_self _
  | creating same recorded split missing =>
    exact ⟨.ok, _, _, trivial, rfl, rfl, Nat.lt_succ_of_le nextEvent_ahead⟩
  | resolved recorded => exact absurd rfl live

def State.goesOn (reply : NormalizedTrackingResponse) (_ : State) : Label → Prop
  | .settle _ a => a.goesOn reply
  | _ => False

theorem State.Tracking.completes (trackable : row.Trackable env)
    (stored : start.findOne row.orderId = some row) {before : List Task}
    (h : s.world.Partly env row reply start) (tasks : s.tasks = before ++ [.trackOrder call])
    (progress : call.Progress row reply s.world) :
    ∃ t, (platform env).Reaches (State.goesOn reply) s t ∧ t.Returned reply ∧
      t.world.now = s.world.now := by
  induction size : call.ahead reply using Nat.strongRecOn generalizing s call with
  | ind size ih =>
    by_cases done : call = .resolved reply
    · refine ⟨s, .refl, ?_, rfl⟩
      unfold State.Returned
      rw [tasks, done]
      exact List.mem_append_right _ (List.mem_singleton_self _)
    · obtain ⟨a, w', call', goesOn, stepped, clock, fewer⟩ := progress.step env done
      have answered (response) (same : a = .tracked response) : response = reply := by
        subst same
        exact goesOn
      obtain ⟨partly, onward | ⟨stops, -⟩⟩ := TrackingService.Moves.progress (.of_step stepped) trackable
        stored h answered progress
      · have moved : (platform env).next s (.settle before.length a) =
            some ⟨w', before ++ [.trackOrder call']⟩ := by
          simp [platform, State.next, Task.step, stepped, tasks]
        obtain ⟨t, later, returned, same⟩ := ih _ (size ▸ fewer)
          (s := ⟨w', before ++ [.trackOrder call']⟩) partly rfl onward rfl
        exact ⟨t, (Machine.Reaches.refl.step (.settle before.length a) goesOn moved).trans later, returned, same.trans clock⟩
      · exact absurd goesOn stops

theorem State.reaches_start {allowed : State → Label → Prop} {orderId : String}
    (permitted : allowed s (.start (.trackOrder orderId))) :
    (platform env).Reaches allowed s ⟨s.world, s.tasks ++ [.trackOrder (.fetchOrder orderId)]⟩ :=
  .step (.start (.trackOrder orderId)) .refl permitted rfl

theorem State.Tracking.begins (trackable : row.Trackable env)
    (stored : start.findOne row.orderId = some row) (h : s.world.Partly env row reply start) :
    ∃ t, (platform env).Reaches (State.goesOn reply)
      ⟨s.world, s.tasks ++ [.trackOrder (.fetchOrder row.orderId)]⟩ t ∧ t.Returned reply ∧
      t.world.now = s.world.now :=
  State.Tracking.completes (s := ⟨s.world, s.tasks ++ [.trackOrder (.fetchOrder row.orderId)]⟩) trackable
    stored h rfl .fetching

/-! ## The tables at the end -/

theorem World.Partly.final (h : w.Partly env row reply start) (stored : start.findOne row.orderId = some row)
    (recorded : w.Recorded row reply reply.trackingHistory) :
    w.events = recordAll row reply start.events reply.trackingHistory ∧
      (row.status = reply.status ∧ w.orders = start.orders ∨
        row.status ≠ reply.status ∧ ∃ written, start.now ≤ written ∧ written ≤ w.now ∧
          w.orders = ({ start with now := written }.updateOrder env row (statusPatch reply)).orders) := by
  constructor
  · have again : recordAll row reply w.events (reply.trackingHistory ++ []) = w.events := recorded.recordAll
    rw [List.append_nil] at again
    exact again.symm.trans h.events
  · rcases h.orders with same | written
    · obtain ⟨current, found, status⟩ := recorded.status
      unfold World.findOne at found
      rw [same] at found
      cases stored.symm.trans found
      exact .inl ⟨status, same⟩
    · exact .inr written

theorem World.Partly.tracked (h : w.Partly env row reply start)
    (stored : start.findOne row.orderId = some row)
    (recorded : w.Recorded row reply reply.trackingHistory) : start.Tracked row reply w := by
  obtain ⟨events, orders⟩ := h.final stored recorded
  have added := exists_firsts TrackingEvent.scanKey start.events
    (reply.trackingHistory.map (newEvent row reply))
  refine ⟨?_, ?_, events ▸ added, h.batches⟩
  · unfold World.findOne
    rcases orders with ⟨agrees, same⟩ | ⟨differs, written, since, before, same⟩
    · refine ⟨start.now, Int.le_refl _, h.clock, ?_⟩
      rw [same, if_pos agrees, ← agrees]
      exact stored
    · refine ⟨written, since, before, ?_⟩
      rw [same, if_neg differs]
      exact World.findOne_statusUpdated env stored differs
  · intro x other
    unfold World.findOne
    rcases orders with ⟨-, same⟩ | ⟨-, written, -, -, same⟩
    · rw [same]
    · rw [same]
      exact (World.findOne_updateOrder ..).trans (if_neg other)

theorem State.tracksOnce_of_goesOn {orderId : String} (h : s.goesOn reply l) :
    s.tracksOnce orderId reply l := by
  cases l with
  | settle i a => cases a <;> trivial
  | _ => exact h.elim

theorem State.tracksAgain_of_tracksOnce {orderId : String} (h : s.tracksOnce orderId reply l) :
    s.tracksAgain orderId reply l := by
  cases l with
  | start request =>
    cases request with
    | trackOrder x =>
      refine ⟨h.1, ?_⟩
      rw [State.idle, h.2]
      rfl
    | _ => exact h.elim
  | settle i a => cases a <;> trivial
  | tick ms => trivial
  | _ => exact h.elim

theorem exists_uninterrupted (trackable : row.Trackable env) (stored : w.findOne row.orderId = some row)
    {written : Int} (since : w.now ≤ written) :
    ∃ u, (platform env).Reaches (State.tracksOnce row.orderId reply) (.init w) u ∧ u.Returned reply ∧
      u.Tracking env row reply { w with now := written } ∧ u.world.now = written := by
  let waited : World := { w with now := written }
  have waits : (platform env).next (.init w) (.tick (written - w.now).toNat) = some (.init waited) := by
    have exact : w.now + ((written - w.now).toNat : Int) = written := by omega
    simp only [platform, State.next, State.init, exact, waited]
  have began : (platform env).Reaches (State.tracksOnce row.orderId reply) (.init waited) _ :=
    State.reaches_start ⟨rfl, rfl⟩
  have stored : waited.findOne row.orderId = some row := stored
  obtain ⟨u, later, returned, clock⟩ := State.Tracking.begins (s := .init waited) trackable stored
    (.refl env row reply waited)
  have ran := began.trans (later.mono fun _ _ => State.tracksOnce_of_goesOn)
  refine ⟨u, ?_, returned, ?_, clock⟩
  · exact (Machine.Reaches.refl.step (.tick (written - w.now).toNat) trivial waits).trans ran
  · exact .of_reaches trackable stored (ran.mono fun _ _ => State.tracksAgain_of_tracksOnce)

theorem State.Tracking.restarted (h : t.Tracking env row reply w) (trackable : row.Trackable env)
    (stored : w.findOne row.orderId = some row) (returned : t.Returned reply) :
    ∃ u, (platform env).Reaches (State.tracksOnce row.orderId reply) (.init w) u ∧
      u.Returned reply ∧ t.world.orders = u.world.orders ∧ t.world.events = u.world.events ∧
      t.world.batches = u.world.batches := by
  obtain ⟨events, orders⟩ := h.partly.final stored (h.returned returned)
  rcases orders with ⟨agrees, same⟩ | ⟨differs, written, since, -, same⟩
  · obtain ⟨u, ran, again, there, -⟩ := exists_uninterrupted trackable stored (Int.le_refl w.now)
    obtain ⟨events', ⟨-, same'⟩ | ⟨differs, -⟩⟩ := there.partly.final stored (there.returned again)
    · exact ⟨u, ran, again, same.trans same'.symm, events.trans events'.symm,
        h.partly.batches.trans there.partly.batches.symm⟩
    · exact absurd agrees differs
  · obtain ⟨u, ran, again, there, clock⟩ := exists_uninterrupted trackable stored since
    obtain ⟨events', ⟨agrees, -⟩ | ⟨-, instant, after, before, same'⟩⟩ :=
      there.partly.final stored (there.returned again)
    · exact absurd agrees differs
    · obtain rfl : instant = written := Int.le_antisymm (clock ▸ before) after
      exact ⟨u, ran, again, same.trans same'.symm, events.trans events'.symm,
        h.partly.batches.trans there.partly.batches.symm⟩

theorem State.tracksOnce_live (trackable : row.Trackable env) (stored : w.findOne row.orderId = some row)
    (ran : (platform env).Reaches (State.tracksOnce row.orderId reply) (.init w) s) :
    s.tasks = [] ∨ ∃ call, s.tasks = [.trackOrder call] ∧ call.Progress row reply s.world := by
  induction ran with
  | refl => exact .inl rfl
  | @step s t l earlier allowed moved ih =>
    have again := earlier.mono fun _ _ => State.tracksAgain_of_tracksOnce
    have partly := (State.Tracking.of_reaches trackable stored again).partly
    cases State.Moves.of_next moved with
    | started request =>
      cases request with
      | trackOrder orderId =>
        obtain ⟨rfl, none⟩ := allowed
        exact .inr ⟨_, by rw [none]; rfl, .fetching⟩
      | _ => exact allowed.elim
    | @settled i a task w' task' awaiting moved =>
      rcases ih with none | ⟨call, tasks, progress⟩
      · rw [none] at awaiting
        contradiction
      · rw [tasks, List.getElem?_singleton] at awaiting
        split at awaiting
        next first =>
          cases awaiting
          have goesOn : a.goesOn reply := by
            cases a <;> exact allowed
          have answered (response) (same : a = .tracked response) : response = reply := by
            subst same
            exact goesOn
          cases moved with
          | @trackOrder _ _ _ call' settled =>
            obtain ⟨-, onward | ⟨stops, -⟩⟩ := settled.progress trackable stored partly answered progress
            · refine .inr ⟨call', ?_, onward⟩
              rw [tasks, first]
              rfl
            · exact absurd goesOn stops
        next => contradiction
    | ticked ms =>
      rcases ih with none | ⟨call, tasks, progress⟩
      · exact .inl none
      · exact .inr ⟨call, tasks, progress.congr rfl rfl⟩
    | _ => exact allowed.elim

/-- For every booked row, whatever the tables and the response. -/
theorem trackOrder_converges (reply : NormalizedTrackingResponse) (trackable : row.Trackable env)
    (stored : w.findOne row.orderId = some row) : w.Converges env row reply where
  returns s ran := by
    have again := ran.mono fun _ _ => State.tracksAgain_of_tracksOnce
    have partly := (State.Tracking.of_reaches trackable stored again).partly
    rcases State.tracksOnce_live trackable stored ran with none | ⟨call, tasks, progress⟩
    · obtain ⟨t, later, returned, -⟩ := State.Tracking.begins trackable stored partly
      have began : (platform env).Reaches (State.tracksOnce row.orderId reply) s _ :=
        State.reaches_start ⟨rfl, none⟩
      exact ⟨t, began.trans (later.mono fun _ _ => State.tracksOnce_of_goesOn), returned⟩
    · have alone : s.tasks = [] ++ [.trackOrder call] := tasks
      obtain ⟨t, later, returned, -⟩ := State.Tracking.completes trackable stored partly alone progress
      exact ⟨t, later.mono fun _ _ => State.tracksOnce_of_goesOn, returned⟩
  tracked t ran returned := by
    have again := ran.mono fun _ _ => State.tracksAgain_of_tracksOnce
    have h := State.Tracking.of_reaches trackable stored again
    exact h.partly.tracked stored (h.returned returned)
  resumes s ran := by
    have h := State.Tracking.of_reaches trackable stored ran
    have onward {a b} (later : (platform env).Reaches (State.goesOn reply) a b) :
        (platform env).Reaches (State.tracksAgain row.orderId reply) a b :=
      later.mono fun _ _ goes => State.tracksAgain_of_tracksOnce (State.tracksOnce_of_goesOn goes)
    rcases h.live with idle | ⟨before, call, tasks, -, progress⟩
    · obtain ⟨t, later, returned, -⟩ := State.Tracking.begins trackable stored h.partly
      have began : (platform env).Reaches (State.tracksAgain row.orderId reply) s _ :=
        State.reaches_start ⟨rfl, idle⟩
      exact ⟨t, began.trans (onward later), returned⟩
    · obtain ⟨t, later, returned, -⟩ := State.Tracking.completes trackable stored h.partly tasks progress
      exact ⟨t, onward later, returned⟩
  restarted t ran returned :=
    (State.Tracking.of_reaches trackable stored ran).restarted trackable stored returned

end

theorem trackOrder_converges_scanned :
    ∃ row, bookedParcel.findOne "A-1" = some row ∧
      bookedParcel.Converges (defaultEnv .postgres .named) row scannedReply := by
  obtain ⟨row, stored⟩ := Option.isSome_iff_exists.mp
    (show (bookedParcel.findOne "A-1").isSome = true by decide)
  refine ⟨row, stored, trackOrder_converges scannedReply ?_ ?_⟩
  · cases stored
    exact ⟨⟨"MCK1", by decide⟩, ⟨⟨"mock"⟩, by decide⟩⟩
  · cases stored
    rfl

end CourierPlatform
