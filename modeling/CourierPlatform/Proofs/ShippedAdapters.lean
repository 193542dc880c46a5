import CourierPlatform.Proofs.AcceptedOrders
import CourierPlatform.Proofs.Footprint
import CourierPlatform.Proofs.Responses
import CourierPlatform.Spec.ShippedAdapters

/-! With the adapters that the platform comes with, a reply is about the order it was asked about. What
is proved of the responses under that condition holds without it. -/
namespace CourierPlatform
open Js Library

/-! ## Replies -/

namespace UrbaneBoltAdapter

theorem createShipment_orderId {config : ClientConfig} {script : CourierScript} {payload : Json}
    {now : Int} {random : Fin 9000} {order : NormalizedCreateOrderRequest}
    {reply : NormalizedCreateOrderResponse}
    (ran : (createShipment config script payload now random order []).2 = some (.ok reply)) :
    reply.orderId = order.orderId := by
  obtain ⟨manifest, -, made⟩ := Option.map_eq_some_iff.mp ran
  obtain ⟨rawResponse, -, made⟩ := Except.of_bind_ok made
  obtain ⟨identifiers, -, made⟩ := Except.of_bind_ok made
  cases made
  rfl

theorem trackShipment_orderId {js : JsText} {parseDate : String → Option Int} {now : Int}
    {awbNumber orderId : String} {reply : Except Thrown UrbaneBoltTrackingResponse}
    {response : NormalizedTrackingResponse} (nonempty : orderId ≠ "")
    (made : trackShipment js parseDate now awbNumber (some orderId) reply = .ok response) :
    response.orderId = orderId := by
  have own (rawResponse : Json) :
      UrbaneBoltMapper.trackedOrderId rawResponse (some orderId) = .ok orderId := by
    simp [UrbaneBoltMapper.trackedOrderId, orNull, Option.filter_some, nonempty]
  obtain ⟨trackingData, -, made⟩ := Except.of_bind_ok made
  obtain ⟨items, -, made⟩ := Except.of_bind_ok made
  obtain ⟨status, -, made⟩ := Except.of_bind_ok made
  obtain ⟨named, same, made⟩ := Except.of_bind_ok made
  obtain ⟨description, -, made⟩ := Except.of_bind_ok made
  cases made
  exact (Except.ok.inj ((own _).symm.trans same)).symm

theorem cancelShipment_orderId {config : ClientConfig} {script : CourierScript} {now : Int}
    {awbNumber orderId : String} {reply : NormalizedCancelResponse}
    (ran : (cancelShipment config script now awbNumber (some orderId) []).2 = some (.ok reply)) :
    reply.orderId = orderId := by
  obtain ⟨cancel, -, made⟩ := Option.map_eq_some_iff.mp ran
  obtain ⟨rawResponse, -, made⟩ := Except.of_bind_ok made
  cases made
  by_cases empty : orderId = "" <;>
    simp [UrbaneBoltMapper.toNormalizedCancelResponse, Option.filter_some, empty]

end UrbaneBoltAdapter

theorem Adapter.Books.own {adapter : Adapter} {order : NormalizedCreateOrderRequest} {answer : Answer}
    {reply : NormalizedCreateOrderResponse} (books : adapter.Books order answer)
    (booked : answer = .booked reply) : reply.orderId = order.orderId := by
  cases books with
  | mock named =>
    cases booked
    rfl
  | @urbaneBolt _ _ _ _ _ settled named ran =>
    cases settled with
    | error error => contradiction
    | ok made =>
      cases booked
      exact UrbaneBoltAdapter.createShipment_orderId ran

theorem Adapter.Tracks.own {adapter : Adapter} {js : JsText} {awbNumber orderId : String}
    {answer : Answer} {reply : NormalizedTrackingResponse} (nonempty : orderId ≠ "")
    (tracks : adapter.Tracks js awbNumber orderId answer) (tracked : answer = .tracked reply) :
    reply.orderId = orderId := by
  cases tracks with
  | mock named =>
    cases tracked
    exact orDefault_empty orderId
  | @urbaneBolt _ _ parseDate now body named ran =>
    cases made : UrbaneBoltAdapter.trackShipment js parseDate now awbNumber (some orderId) body with
    | error error =>
      rw [made] at tracked
      contradiction
    | ok response =>
      rw [made] at tracked
      cases tracked
      exact UrbaneBoltAdapter.trackShipment_orderId nonempty made

theorem Adapter.Cancels.own {adapter : Adapter} {awbNumber orderId : String} {reason : Option String}
    {answer : Answer} {reply : NormalizedCancelResponse}
    (cancels : adapter.Cancels awbNumber orderId reason answer) (cancelled : answer = .cancelled reply) :
    reply.orderId = orderId := by
  cases cancels with
  | mock named =>
    cases cancelled
    exact orDefault_empty orderId
  | @urbaneBolt _ _ _ settled named ran =>
    cases settled with
    | error error => contradiction
    | ok made =>
      cases cancelled
      exact UrbaneBoltAdapter.cancelShipment_orderId ran

/-! ## Runs -/

def State.Named (s : State) : Prop :=
  ∀ task ∈ s.tasks, ∀ order ∈ task.instances, order.orderId ≠ ""

theorem Task.AdapterReplies.own {js : JsText} {task : Task} {answer : Answer}
    (named : ∀ order ∈ task.instances, order.orderId ≠ "") (replies : task.AdapterReplies js answer) :
    task.repliesOwn answer = true := by
  unfold Task.repliesOwn
  split
  next orderData persistedOrder adapter reply => exact decide_eq_true (Adapter.Books.own replies rfl)
  next order awbNumber adapter reply =>
    exact decide_eq_true (Adapter.Tracks.own (named order (List.mem_singleton_self order)) replies rfl)
  next order adapter reason reply => exact decide_eq_true (Adapter.Cancels.own replies rfl)
  next => rfl

namespace State

variable {env : Env} {s t : State} {l : Label}

theorem Named.next (h : s.Named) (stored : ∀ x row, t.world.findOne x = some row → x ≠ "")
    (moves : Moves env s l t) : t.Named := by
  refine moves.forall_tasks_of_quiet (fun j task found _ => h task (List.mem_of_getElem? found)) ?_ ?_
  · intro task quiet order mem
    cases task with
    | createOrder call => cases call <;> first | exact quiet.elim | exact nomatch mem
    | bulkItem bulk index call => cases call <;> first | exact quiet.elim | exact nomatch mem
    | trackOrder call => cases call <;> first | exact quiet.elim | exact nomatch mem
    | cancelOrder call => cases call <;> first | exact quiet.elim | exact nomatch mem
    | reconcile cycle => cases cycle <;> first | exact quiet.elim | exact nomatch mem
    | _ => exact nomatch mem
  · intro i a task task' _ awaiting moved order mem
    rcases moved.instances mem with carried | ⟨present, -⟩
    · obtain ⟨before, held, same⟩ := List.mem_map.mp carried
      exact same ▸ h task (List.mem_of_getElem? awaiting) before held
    · obtain ⟨row, found⟩ := Option.isSome_iff_exists.mp present
      exact stored _ row found

theorem stored_named {formats : Formats}
    (reach : (platform env).Reaches (fun _ l => l.accepted formats = true) (.init .empty) s) (x : String)
    (row : Order) (found : s.world.findOne x = some row) : x ≠ "" := by
  rintro rfl
  have keyed := (State.WellFormed.init World.WellKeyed.empty).reaches reach |>.keyed "" row found
  have accepted := ((State.From.accepted reach).world.rows "" row found).payload
  have valid := (Bool.and_eq_true_iff.mp accepted).1
  simp only [createOrderSchema, Bool.and_eq_true, keyed] at valid
  exact absurd valid.1.1.1.1.1.1.1.1 (by decide)

theorem Named.reaches {formats : Formats}
    (reach : (platform env).Reaches (fun _ l => l.accepted formats = true) (.init .empty) s) :
    s.Named := by
  induction reach with
  | refl => exact fun task mem => nomatch mem
  | step l earlier permitted moved ih =>
    exact ih.next (stored_named (earlier.step l permitted moved)) (.of_next moved)

end State

/-- With validators that keep to the schemas and the two adapters of the platform, the replies of the
couriers are about the orders they are asked about, whatever the UrbaneBolt API answers, as long as its
tracking bodies conform to their type; so a response fits its request. -/
theorem shipped_responses_fit {config : ServerConfig} {formats : Formats} {t : Server}
    (sound : config.validators.Sound formats)
    (reach : (server config).Reaches (fun s l => s.AdaptersReply config.env.js l) (.init .empty) t) :
    (server config).Reaches (fun s l => s.repliesOwn l = true) (.init .empty) t ∧
      ∀ (k : Nat) (exchange : Exchange) (response : HttpResponse),
        t.exchanges[k]? = some exchange → exchange.response = some response →
          response.Fits config exchange.request exchange.requestId := by
  have own : (server config).Reaches (fun s l => s.repliesOwn l = true) (.init .empty) t := by
    refine reach.view id fun s l after earlier replies moved => .inr ⟨l, ?_, moved⟩
    have named : s.platform.Named := State.Named.reaches (Server.reaches_platform sound earlier)
    cases l with
    | platform l =>
      cases l with
      | settle i answer =>
        simp only [Server.repliesOwn, State.repliesOwn, id_eq]
        cases found : s.platform.tasks[i]? with
        | none => rfl
        | some task =>
          have mem := List.mem_of_getElem? found
          exact Task.AdapterReplies.own (named task mem) (replies task found)
      | _ => rfl
    | _ => rfl
  have kept : t.Sound config := by
    refine own.invariant (Server.Sound config) (.init config _) ?_
    intro a l b inv replies moved
    exact inv.next replies moved
  refine ⟨own, fun k exchange response here answered => ?_⟩
  exact (kept.exchanges exchange (List.mem_of_getElem? here)).response response answered

theorem Task.AdapterReplies.of_mock {js : JsText} {now : Int} {random : Fin 9000} {task : Task}
    {answer : Answer} (h : task.mockReplies now random answer = true) : task.AdapterReplies js answer := by
  cases task with
  | createOrder call =>
    cases call with
    | createShipment orderData persistedOrder adapter =>
      cases answer with
      | booked reply =>
        obtain ⟨named, same⟩ := Bool.and_eq_true_iff.mp h
        exact of_decide_eq_true same ▸ .mock (of_decide_eq_true named)
      | _ => contradiction
    | _ => trivial
  | trackOrder call =>
    cases call with
    | trackShipment order awbNumber adapter =>
      cases answer with
      | tracked reply =>
        obtain ⟨named, same⟩ := Bool.and_eq_true_iff.mp h
        exact of_decide_eq_true same ▸ .mock (of_decide_eq_true named)
      | _ => contradiction
    | _ => trivial
  | bulkItem bulk index call => cases call <;> trivial
  | cancelOrder call => cases call <;> trivial
  | reconcile cycle => cases cycle <;> trivial
  | _ => trivial

theorem Server.AdaptersReply.of_mock (js : JsText) {random : Fin 9000} {s : Server} {l : ServerLabel}
    (h : s.mockReplies random l = true) : s.AdaptersReply js l := by
  cases l with
  | platform l =>
    cases l with
    | settle i answer =>
      intro task found
      simp only [mockReplies, found, Option.all_some] at h
      exact .of_mock h
    | _ => trivial
  | _ => trivial

theorem shipped_responses_fit_mock :
    ∃ (request : HttpRequest) (response : HttpResponse), response.statusCode = 201 ∧
      response.Fits productionServer request (some "R-1") := by
  obtain ⟨t, reach, test⟩ := Machine.Reaches.of_run_any (server productionServer)
    (fun s l => s.mockReplies 0 l = true) (.init .empty)
    [.receive bookParcel "U-1" "B-1", .platform (.settle 0 .ok), .platform (.settle 0 .ok),
      .platform (.settle 0 (.booked (MockCourierAdapter.createShipment 0 0
        (parcel "A-1" "mock").useDefaults))),
      .platform (.settle 0 .ok), .respond 0]
    (fun t => t.exchanges[0]?.any fun exchange =>
      exchange.requestId = some "R-1" && exchange.response.any (·.statusCode = 201)) (by decide)
  obtain ⟨exchange, here, seen⟩ := (Option.any_eq_true _ _).mp test
  obtain ⟨identified, sent⟩ := Bool.and_eq_true_iff.mp seen
  obtain ⟨response, answered, status⟩ := (Option.any_eq_true _ _).mp sent
  have shipped := reach.mono fun s l h => Server.AdaptersReply.of_mock productionServer.env.js h
  have fits := (shipped_responses_fit sampleValidators_sound shipped).2 0 exchange response here answered
  rw [of_decide_eq_true identified] at fits
  exact ⟨exchange.request, response, of_decide_eq_true status, fits⟩

end CourierPlatform
