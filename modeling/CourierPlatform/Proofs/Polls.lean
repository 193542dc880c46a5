import CourierPlatform.Library.AppendOnly
import CourierPlatform.Proofs.Sequential
import CourierPlatform.Proofs.TrackingBodies
import CourierPlatform.Spec.Polling

/-! Polls, one at a time. What a body is read as, what a call that runs alone makes of the tables, and
that it settles. -/
namespace CourierPlatform
open Js Library UrbaneBoltMapper

/-! ## What a body is read as -/

section
variable {env : Env} {poll : Poll} {now : Int} {awbNumber : String}
  {reply : NormalizedTrackingResponse}

def Poll.Parses (poll : Poll) : Prop :=
  ∀ evt ∈ poll.body.rawEvents, ∀ text ∈ scanDate evt, (poll.parseDate text).isSome

def Poll.item (env : Env) (poll : Poll) (now : Int) (evt : UrbaneBoltTrackingEvent) :
    TrackingEventItem :=
  scanItem env.js evt ((scanInstant poll.parseDate now evt).getD 0)

theorem Poll.reply_ok_iff (parses : poll.Parses) :
    (∃ reply, poll.reply env now awbNumber = .ok reply) ↔ poll.readable = true := by
  unfold reply
  have named : (orNull (some poll.orderId)).isSome = true ↔ poll.orderId ≠ "" := by
    by_cases empty : poll.orderId = "" <;> simp [orNull, empty]
  rw [toNormalizedTrackingResponse_ok_iff, and_iff_right (show DatesParse _ _ from parses), named]
  simp [readable, textual]

theorem Poll.reply_history (h : poll.reply env now awbNumber = .ok reply) :
    reply.trackingHistory = poll.body.rawEvents.map (poll.item env now) :=
  (toNormalizedTrackingResponse_ok h).1

end
/-! ## A call on its own -/

structure Order.SameShipment (row other : Order) : Prop where
  orderId : other.orderId = row.orderId
  awbNumber : other.awbNumber = row.awbNumber
  courierPartner : other.courierPartner = row.courierPartner

structure Poll.Since (poll : Poll) (row : Order) (start w : World) : Prop where
  clock : start.now ≤ w.now
  stored : ∃ row', w.findOne poll.orderId = some row' ∧ row.SameShipment row'

def TrackOrder.recording? :
    TrackOrder → Option (Order × NormalizedTrackingResponse × List TrackingEventItem)
  | updateStatus order reply => some (order, reply, reply.trackingHistory)
  | findEvent order reply event rest => some (order, reply, event :: rest)
  | createEvent order reply event rest => some (order, reply, event :: rest)
  | _ => none

open TrackingService in
inductive Poll.Stage (env : Env) (poll : Poll) (row : Order) (awbNumber : String) (start w : World) :
    TrackOrder → Prop where
  | fetching (events : w.events = start.events) :
      Stage env poll row awbNumber start w (.fetchOrder poll.orderId)
  | asking {order adapter} (same : row.SameShipment order) (events : w.events = start.events) :
      Stage env poll row awbNumber start w (.trackShipment order awbNumber adapter)
  | recording {call order reply items asked} (since : start.now ≤ asked)
      (answered : poll.reply env asked awbNumber = .ok reply)
      (pending : call.recording? = some (order, reply, items)) (same : row.SameShipment order)
      (events : recordAll row reply w.events items =
        recordAll row reply start.events reply.trackingHistory)
      (missing : ∀ key, call.creating? = some key → key ∉ w.scanKeys) :
      Stage env poll row awbNumber start w call
  | resolved {reply asked} (since : start.now ≤ asked)
      (answered : poll.reply env asked awbNumber = .ok reply)
      (events : w.events = recordAll row reply start.events reply.trackingHistory) :
      Stage env poll row awbNumber start w (.resolved reply)
  | rejected {error asked} (answered : poll.reply env asked awbNumber = .error error)
      (events : w.events = start.events) :
      Stage env poll row awbNumber start w (.rejected error)

section
variable {env : Env} {poll : Poll} {row order : Order} {awbNumber : String} {start w w' : World}
  {call call' : TrackOrder} {a : Answer} {reply : NormalizedTrackingResponse} {asked : Int}
  {event : TrackingEventItem} {items : List TrackingEventItem}

theorem Order.SameShipment.newEvent (same : row.SameShipment order) :
    TrackingService.newEvent order reply event = TrackingService.newEvent row reply event := by
  unfold TrackingService.newEvent
  rw [same.orderId, same.awbNumber]

namespace Poll

variable {adapter : Adapter} {now : Int}

theorem reply_of_tracked
    (h : .tracked reply = poll.answer env now (.trackShipment order awbNumber adapter)) :
    poll.reply env now awbNumber = .ok reply := by
  cases result : poll.reply env now awbNumber with
  | ok other =>
    simp only [answer, result, Answer.tracked.injEq] at h
    rw [h]
  | error error =>
    simp only [answer, result] at h
    contradiction

theorem reply_of_refused {error : Thrown}
    (h : .refused error = poll.answer env now (.trackShipment order awbNumber adapter)) :
    poll.reply env now awbNumber = .error error := by
  cases result : poll.reply env now awbNumber with
  | ok other =>
    simp only [answer, result] at h
    contradiction
  | error other =>
    simp only [answer, result, Answer.refused.injEq] at h
    rw [h]

theorem answer_ne_dbError (error : Thrown) : poll.answer env now call ≠ .dbError error := by
  unfold answer
  split
  · split <;> exact Answer.noConfusion
  · exact Answer.noConfusion

end Poll

namespace TrackingService

theorem recordAll_known (same : row.SameShipment order)
    (known : event.scanKey order.orderId ∈ w.scanKeys) :
    recordAll row reply w.events (event :: items) = recordAll row reply w.events items := by
  unfold recordAll
  rw [List.map_cons, insertAllNew_cons, insertNew, if_pos]
  rw [← same.newEvent]
  exact known

theorem recordAll_new (same : row.SameShipment order)
    (missing : event.scanKey order.orderId ∉ w.scanKeys) :
    recordAll row reply w.events (event :: items) =
      recordAll row reply (w.createEvent (newEvent order reply event)).events items := by
  unfold recordAll
  rw [List.map_cons, insertAllNew_cons, insertNew, if_neg]
  · rw [← same.newEvent]
    rfl
  · rw [← same.newEvent]
    exact missing

theorem nextEvent_stage (since : start.now ≤ asked)
    (answered : poll.reply env asked awbNumber = .ok reply) (same : row.SameShipment order)
    (events : recordAll row reply w.events items =
      recordAll row reply start.events reply.trackingHistory) :
    poll.Stage env row awbNumber start w (nextEvent order reply items) := by
  cases items with
  | nil => exact .resolved since answered events
  | cons event rest =>
    exact .recording since answered rfl same events fun _ creating => by contradiction

theorem Moves.stage (moved : Moves env w call a w' call') (since : poll.Since row start w)
    (booked : poll.Booked env start row awbNumber)
    (allowed : a = poll.answer env w.now call) (h : poll.Stage env row awbNumber start w call) :
    poll.Stage env row awbNumber start w' call' := by
  cases moved with
  | read found awb _ registered =>
    cases h with
    | fetching events =>
      obtain ⟨row', there, same⟩ := since.stored
      cases there.symm.trans found
      cases booked.awb.symm.trans (same.awbNumber.symm.trans awb)
      exact .asking same events
    | recording _ _ pending => contradiction
  | declined why =>
    cases h with
    | fetching events =>
      obtain ⟨row', there, same⟩ := since.stored
      have awb : orNull row'.awbNumber = some awbNumber := by
        rw [same.awbNumber, booked.awb, orNull, Option.filter_some,
          if_pos (by simpa using booked.nonempty)]
      rw [there, afterFetch] at why
      simp only [awb, same.courierPartner, booked.partner] at why
      contradiction
    | recording _ _ pending => contradiction
  | @tracked order number adapter reply =>
    cases h with
    | asking same events =>
      have answered := Poll.reply_of_tracked allowed
      unfold updateOrderStatusIfChanged
      split
      · exact .recording since.clock answered rfl same (by rw [← events]; rfl)
          fun _ creating => by contradiction
      · exact nextEvent_stage since.clock answered same (by rw [← events]; rfl)
    | recording _ _ pending => contradiction
  | @refused order number adapter error =>
    cases h with
    | asking same events =>
      exact .rejected (Poll.reply_of_refused allowed) events
    | recording _ _ pending => contradiction
  | statusUpdated =>
    cases h with
    | recording since answered pending same events =>
      cases pending
      exact nextEvent_stage since answered ⟨same.orderId, same.awbNumber, same.courierPartner⟩ events
  | eventFound recorded =>
    cases h with
    | recording since answered pending same events =>
      cases pending
      rw [recordAll_known same (any_sameEvent.mp recorded)] at events
      exact nextEvent_stage since answered same events
  | eventMissing missing =>
    cases h with
    | recording since answered pending same events =>
      cases pending
      refine .recording since answered rfl same events fun key creating => ?_
      cases creating
      exact fun known => missing (any_sameEvent.mpr known)
  | eventAdded =>
    cases h with
    | recording since answered pending same events missing =>
      cases pending
      rw [recordAll_new same (missing _ rfl)] at events
      exact nextEvent_stage since answered same events
  | failed awaits => exact absurd allowed.symm (Poll.answer_ne_dbError _)

end TrackingService
end
inductive Poll.Course (env : Env) (poll : Poll) (row : Order) (awbNumber : String) (s a : State) :
    Prop where
  | before (tasks : a.tasks = s.tasks) (events : a.world.events = s.world.events)
  | during {call} (tasks : a.tasks = s.tasks ++ [.trackOrder call])
      (stage : poll.Stage env row awbNumber s.world a.world call)
  | beyond (more : s.tasks.length + 1 < a.tasks.length)

section
variable {env : Env} {poll : Poll} {row : Order} {awbNumber : String} {s a t : State} {l : Label}
  {w w' start : World} {call call' : TrackOrder}

theorem Order.SameShipment.refl (row : Order) : row.SameShipment row := ⟨rfl, rfl, rfl⟩

theorem Order.SameShipment.write {mode : UpdateMode} {now : Int} {other loaded : Order}
    {reply : NormalizedTrackingResponse} (h : row.SameShipment other) :
    row.SameShipment (other.write mode now loaded (TrackingService.statusPatch reply)) :=
  ⟨h.orderId, h.awbNumber, h.courierPartner⟩

theorem Poll.Stage.congr (h : poll.Stage env row awbNumber start w call)
    (events : w'.events = w.events) : poll.Stage env row awbNumber start w' call := by
  cases h with
  | fetching before => exact .fetching (events.trans before)
  | asking same before => exact .asking same (events.trans before)
  | recording since answered pending same before missing =>
    refine .recording since answered pending same (by rw [events, before]) ?_
    rw [World.scanKeys, events]
    exact missing
  | resolved since answered before => exact .resolved since answered (events.trans before)
  | rejected answered before => exact .rejected answered (events.trans before)

theorem TrackingService.Moves.since {answer : Answer} (moved : Moves env w call answer w' call')
    (h : poll.Since row start w) : poll.Since row start w' := by
  obtain ⟨clock, row', found, same⟩ := h
  refine ⟨?_, ?_⟩
  · cases moved <;> exact clock
  · cases moved with
    | @statusUpdated order reply =>
      rw [World.findOne_updateOrder]
      split
      · exact ⟨_, by rw [found]; rfl, same.write⟩
      · exact ⟨row', found, same⟩
    | _ => exact ⟨row', found, same⟩


theorem Poll.Since.next (h : poll.Since row start a.world) (allowed : a.polls env poll l)
    (moves : State.Moves env a l t) : poll.Since row start t.world := by
  cases moves with
  | started request => exact h
  | settled awaiting moved =>
    obtain ⟨call, found, -⟩ := allowed
    cases awaiting.symm.trans found
    cases moved with
    | trackOrder moved => exact moved.since h
  | ticked ms =>
    refine ⟨?_, h.stored⟩
    have before := h.clock
    change start.now ≤ a.world.now + ms
    omega
  | _ => exact allowed.elim

theorem Poll.Course.next (h : poll.Course env row awbNumber s a)
    (booked : poll.Booked env s.world row awbNumber) (idle : s.idle = true)
    (since : poll.Since row s.world a.world) (allowed : a.polls env poll l)
    (moves : State.Moves env a l t) : poll.Course env row awbNumber s t := by
  have kept := State.length_le_of_next moves
  cases h with
  | beyond more => exact .beyond (Nat.lt_of_lt_of_le more kept)
  | before tasks events =>
    cases moves with
    | started request =>
      cases request with
      | trackOrder orderId =>
        cases allowed.1
        exact .during (by rw [tasks]; rfl) (.fetching events)
      | _ => exact allowed.elim
    | settled awaiting moved =>
      rw [tasks] at awaiting
      have settled := State.settled_of_idle idle awaiting
      rw [moved.unsettled] at settled
      contradiction
    | ticked ms => exact .before tasks events
    | _ => exact allowed.elim
  | @during call tasks stage =>
    cases moves with
    | started request =>
      refine .beyond ?_
      rw [List.length_append, tasks, List.length_append]
      exact Nat.lt_succ_self _
    | @settled i answer task w' task' awaiting moved =>
      obtain ⟨call, found, answered⟩ := allowed
      cases awaiting.symm.trans found
      rw [tasks] at awaiting
      rcases getElem?_concat_cases awaiting with earlier | ⟨rfl, same⟩
      · have settled := State.settled_of_idle idle earlier
        rw [moved.unsettled] at settled
        contradiction
      · cases same
        cases moved with
        | @trackOrder _ _ _ call' moved =>
          refine .during ?_ (moved.stage since booked answered stage)
          change a.tasks.set s.tasks.length _ = _
          rw [tasks, List.set_append_right _ _ (Nat.le_refl _), Nat.sub_self]
          rfl
    | ticked ms => exact .during tasks (stage.congr rfl)
    | _ => exact allowed.elim

inductive Poll.Ended (env : Env) (poll : Poll) (row : Order) (awbNumber : String) (s t : State) :
    Prop where
  | resolved {reply asked} (since : s.world.now ≤ asked)
      (answered : poll.reply env asked awbNumber = .ok reply)
      (task : t.tasks[s.tasks.length]? = some (.trackOrder (.resolved reply)))
      (events : t.world.events =
        TrackingService.recordAll row reply s.world.events reply.trackingHistory)
  | rejected {error asked} (answered : poll.reply env asked awbNumber = .error error)
      (task : t.tasks[s.tasks.length]? = some (.trackOrder (.rejected error)))
      (events : t.world.events = s.world.events)

theorem Poll.Booked.since (booked : poll.Booked env s.world row awbNumber)
    (reach : (platform env).Reaches (State.polls env poll) s t) :
    poll.Since row s.world t.world := by
  refine reach.invariant (fun a => poll.Since row s.world a.world)
    ⟨Int.le_refl _, row, booked.stored, .refl row⟩ ?_
  intro a l b since allowed next
  exact since.next allowed (.of_next next)

theorem Poll.Booked.course (booked : poll.Booked env s.world row awbNumber) (idle : s.idle = true)
    (reach : (platform env).Reaches (State.polls env poll) s t) :
    poll.Course env row awbNumber s t := by
  induction reach with
  | refl => exact .before rfl rfl
  | step l earlier allowed next ih =>
    exact ih.next booked idle (booked.since earlier) allowed (.of_next next)

theorem Poll.Booked.ended (booked : poll.Booked env s.world row awbNumber) (idle : s.idle = true)
    (once : s.PolledOnce env poll t) : poll.Ended env row awbNumber s t := by
  have length := once.one
  cases booked.course idle once.reach with
  | before tasks events =>
    rw [tasks] at length
    omega
  | beyond more => omega
  | @during call tasks stage =>
    have found : t.tasks[s.tasks.length]? = some (.trackOrder call) := by
      rw [tasks]
      exact List.getElem?_concat_length
    have settled : call.settled = true := State.settled_of_idle once.settled found
    cases stage with
    | resolved since answered events => exact .resolved since answered found events
    | rejected answered events => exact .rejected answered found events
    | fetching => contradiction
    | asking => contradiction
    | recording since answered pending =>
      cases call <;> contradiction

theorem Poll.Booked.later (booked : poll.Booked env s.world row awbNumber)
    (reach : (platform env).Reaches (State.polls env poll) s t) :
    ∃ row', poll.Booked env t.world row' awbNumber ∧ row.SameShipment row' := by
  obtain ⟨row', stored, same⟩ := (booked.since reach).stored
  refine ⟨row', ⟨stored, ?_, booked.nonempty, ?_⟩, same⟩
  · rw [same.awbNumber, booked.awb]
  · rw [same.courierPartner, booked.partner]

end

/-! ## That polls end -/

def TrackOrder.rank (poll : Poll) : TrackOrder → Nat
  | fetchOrder _ => 2 * poll.body.rawEvents.length + 4
  | trackShipment .. => 2 * poll.body.rawEvents.length + 3
  | updateStatus _ reply => 2 * reply.trackingHistory.length + 2
  | findEvent _ _ _ rest => 2 * rest.length + 2
  | createEvent _ _ _ rest => 2 * rest.length + 1
  | _ => 0

def State.lastRank (poll : Poll) (s : State) : Nat :=
  match s.tasks.getLast? with
  | some (.trackOrder call) => call.rank poll
  | _ => 0

section
variable {env : Env} {poll : Poll} {row order : Order} {awbNumber : String} {s t : State}
  {w : World} {call : TrackOrder} {reply : NormalizedTrackingResponse}

theorem nextEvent_rank {items : List TrackingEventItem} :
    (TrackingService.nextEvent order reply items).rank poll ≤ 2 * items.length := by
  cases items with
  | nil => exact Nat.le_refl _
  | cons event rest => exact Nat.le_refl _

theorem afterFetch_rank {orderId : String} {row : Option Order} :
    (TrackingService.afterFetch env orderId row).rank poll ≤ 2 * poll.body.rawEvents.length + 3 := by
  unfold TrackingService.afterFetch
  split
  · exact Nat.zero_le _
  · split
    · exact Nat.zero_le _
    · split
      · exact Nat.zero_le _
      · exact Nat.le_refl _

theorem Poll.step_answer (env : Env) (w : World) (live : call.settled = false) :
    ∃ w' call', TrackingService.step env w call (poll.answer env w.now call) = some (w', call') ∧
      call'.rank poll < call.rank poll := by
  cases call with
  | fetchOrder orderId => exact ⟨_, _, rfl, Nat.lt_succ_of_le afterFetch_rank⟩
  | trackShipment order number adapter =>
    cases result : poll.reply env w.now number with
    | error error =>
      have refused : poll.answer env w.now (.trackShipment order number adapter) = .refused error := by
        simp only [answer, result]
      rw [refused]
      exact ⟨_, _, rfl, Nat.succ_pos _⟩
    | ok reply =>
      have tracked : poll.answer env w.now (.trackShipment order number adapter) = .tracked reply := by
        simp only [answer, result]
      rw [tracked]
      refine ⟨_, _, rfl, ?_⟩
      have length : reply.trackingHistory.length = poll.body.rawEvents.length := by
        rw [reply_history result, List.length_map]
      unfold TrackingService.updateOrderStatusIfChanged
      split
      · simp only [TrackOrder.rank, length]
        omega
      · have bound := @nextEvent_rank poll order reply reply.trackingHistory
        rw [length] at bound
        exact Nat.lt_of_le_of_lt bound (Nat.lt_add_of_pos_right (Nat.succ_pos 2))
  | updateStatus order reply =>
    exact ⟨_, _, rfl, Nat.lt_of_le_of_lt nextEvent_rank (Nat.lt_add_of_pos_right (Nat.succ_pos 1))⟩
  | findEvent order reply event rest =>
    refine ⟨_, _, rfl, ?_⟩
    split
    · exact Nat.lt_of_le_of_lt nextEvent_rank (Nat.lt_add_of_pos_right (Nat.succ_pos 1))
    · exact Nat.lt_succ_self _
  | createEvent order reply event rest => exact ⟨_, _, rfl, Nat.lt_succ_of_le nextEvent_rank⟩
  | resolved => contradiction
  | rejected => contradiction

theorem Poll.progress (env : Env) (idle : s.idle = true) {a : State}
    (tasks : a.tasks = s.tasks ++ [.trackOrder call]) (busy : ¬ a.idle = true) :
    ∃ b call', (platform env).Reaches (State.polls env poll) a b ∧
      b.tasks = s.tasks ++ [.trackOrder call'] ∧ call'.rank poll < call.rank poll := by
  have live : call.settled = false := by
    cases settled : call.settled with
    | false => rfl
    | true =>
      refine absurd ?_ busy
      rw [State.idle, tasks, List.all_append, ← State.idle, idle]
      simp [Task.settled, settled]
  have found : a.tasks[s.tasks.length]? = some (.trackOrder call) := by
    rw [tasks]
    exact List.getElem?_concat_length
  obtain ⟨w', call', stepped, fewer⟩ := poll.step_answer env a.world live
  refine ⟨⟨w', a.tasks.set s.tasks.length (.trackOrder call')⟩, call',
    .step (.settle s.tasks.length (poll.answer env a.world.now call)) .refl ⟨call, found, rfl⟩ ?_, ?_,
    fewer⟩
  · simp [platform, State.next, found, Task.step, stepped]
  · rw [tasks, List.set_append_right _ _ (Nat.le_refl _), Nat.sub_self]
    rfl

theorem Poll.exists_polledOnce (env : Env) (poll : Poll) (idle : s.idle = true) :
    ∃ t, s.PolledOnce env poll t := by
  let begun : State := ⟨s.world, s.tasks ++ [.trackOrder (.fetchOrder poll.orderId)]⟩
  have began : (platform env).Reaches (State.polls env poll) s begun :=
    Machine.Reaches.refl.step (.start (.trackOrder poll.orderId)) ⟨rfl, idle⟩ rfl
  have progress (a : State) (alone : ∃ call, a.tasks = s.tasks ++ [.trackOrder call])
      (busy : ¬ a.idle = true) : ∃ b, (platform env).Reaches (State.polls env poll) a b ∧
        (∃ call, b.tasks = s.tasks ++ [.trackOrder call]) ∧ b.lastRank poll < a.lastRank poll := by
    obtain ⟨call, tasks⟩ := alone
    obtain ⟨b, call', reach, tasks', fewer⟩ := poll.progress env idle tasks busy
    refine ⟨b, reach, ⟨call', tasks'⟩, ?_⟩
    rw [State.lastRank, State.lastRank, tasks, tasks', List.getLast?_concat, List.getLast?_concat]
    exact fewer
  have alone : ∃ call, begun.tasks = s.tasks ++ [.trackOrder call] := ⟨_, rfl⟩
  obtain ⟨t, rest, ⟨call, tasks⟩, settled⟩ :=
    Machine.Reaches.exists_final (State.lastRank poll) _ _ progress alone
  refine ⟨t, began.trans rest, settled, ?_⟩
  rw [tasks, List.length_append]
  rfl

end

end CourierPlatform
