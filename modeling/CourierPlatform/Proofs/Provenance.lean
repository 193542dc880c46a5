import CourierPlatform.Model.UrbaneBoltMapper
import CourierPlatform.Proofs.StoredAwb

/-! Where the AWB of a booked order comes from. A row carries the AWB of a booking that
was answered with success; with UrbaneBolt this is a value in the body of the answer, or
one the mapper makes up where the body has none. -/
namespace CourierPlatform
open Js Library

namespace UrbaneBoltMapper

def awbNames : List String := ["awb", "awbNumber", "awb_number", "tracking_number"]

def awbFields : Json → List (String × Json)
  | .array (.object fields :: _) => fields
  | .object fields => fields
  | _ => []

def Carries (rawResponse : Json) (awbNumber : String) : Prop :=
  ∃ name ∈ awbNames, ∃ value,
    Json.field? name (awbFields rawResponse) = some value ∧ value.toText? = some awbNumber

def awbField? (rawResponse : Json) (names : List String) : Option Json :=
  Json.firstTruthy (names.map fun name => Json.field? name (awbFields rawResponse))

def hasNoAwb (rawResponse : Json) : Bool :=
  ((awbField? rawResponse awbNames).bind Json.toText?).all (· = "")

def onlyTrackingNumber : Json → Bool
  | .array items =>
    (awbField? (.array items) (awbNames.take 3)).isNone &&
      (awbField? (.array items) awbNames).isSome
  | _ => false

/-- The AWB is a value in the body, or made up because the body has none. -/
def Origin (rawResponse : Json) (awbNumber : String) : Prop :=
  onlyTrackingNumber rawResponse = false → Carries rawResponse awbNumber ∨
    hasNoAwb rawResponse = true ∧ ∃ now random, awbNumber = generatedAwb now random

theorem carries_of_awbField? {rawResponse value : Json} {awbNumber : String}
    (found : awbField? rawResponse awbNames = some value)
    (text : value.toText? = some awbNumber) : Carries rawResponse awbNumber := by
  obtain ⟨name, listed, field⟩ := List.mem_map.mp (Json.mem_of_firstTruthy found)
  exact ⟨name, listed, value, field, text⟩

theorem stringOf_ok {alternatives : List (Option Json)} {text : String}
    (h : stringOf alternatives "" = .ok text) :
    Json.firstTruthy alternatives = none ∧ text = "" ∨
      ∃ value, Json.firstTruthy alternatives = some value ∧ value.toText? = some text := by
  unfold stringOf at h
  cases found : Json.firstTruthy alternatives with
  | none =>
    simp only [found] at h
    cases h
    exact .inl ⟨rfl, rfl⟩
  | some value =>
    simp only [found] at h
    split at h
    next converted =>
      cases h
      exact .inr ⟨value, rfl, converted⟩
    next => contradiction

theorem readCreateResponse_ok {rawResponse : Json} {request : NormalizedCreateOrderRequest}
    {awbNumber courierOrderId : String}
    (h : readCreateResponse rawResponse request = .ok (awbNumber, courierOrderId)) :
    ∃ names, (names = awbNames ∨
        names = awbNames.take 3 ∧ ∃ items, rawResponse = .array items) ∧
      (awbField? rawResponse names = none ∧ awbNumber = "" ∨
        ∃ value, awbField? rawResponse names = some value ∧ value.toText? = some awbNumber) := by
  unfold readCreateResponse at h
  split at h
  next item rest =>
    obtain ⟨fields, here, h⟩ := Except.of_bind_ok h
    obtain ⟨text, awb, h⟩ := Except.of_bind_ok h
    obtain ⟨_, -, h⟩ := Except.of_bind_ok h
    cases h
    have looked : awbFields (.array (item :: rest)) = fields := by
      cases item <;> first | contradiction | exact Except.ok.inj here
    refine ⟨_, .inr ⟨rfl, _, rfl⟩, ?_⟩
    rw [awbField?, looked]
    exact stringOf_ok awb
  next fields =>
    obtain ⟨text, awb, h⟩ := Except.of_bind_ok h
    obtain ⟨_, -, h⟩ := Except.of_bind_ok h
    cases h
    exact ⟨_, .inl rfl, stringOf_ok awb⟩
  next notItems notObject =>
    cases h
    refine ⟨_, .inl rfl, .inl ⟨?_, rfl⟩⟩
    have nothing : awbFields rawResponse = [] := by
      cases rawResponse with
      | array items =>
        cases items with
        | nil => rfl
        | cons item rest => exact absurd rfl (notItems item rest)
      | object fields => exact absurd rfl (notObject fields)
      | _ => rfl
    rw [awbField?, nothing]
    rfl

theorem awbField?_of_take {rawResponse : Json} (seen : onlyTrackingNumber rawResponse = false)
    (items : ∃ items, rawResponse = .array items) :
    awbField? rawResponse awbNames = awbField? rawResponse (awbNames.take 3) := by
  have split : awbField? rawResponse awbNames = (awbField? rawResponse (awbNames.take 3)).or
      (awbField? rawResponse (awbNames.drop 3)) := by
    rw [awbField?, awbField?, awbField?, ← Json.firstTruthy_append, ← List.map_append,
      List.take_append_drop]
  obtain ⟨items, rfl⟩ := items
  cases found : awbField? (.array items) (awbNames.take 3) with
  | some value => rw [split, found, Option.some_or]
  | none => simpa [onlyTrackingNumber, found] using seen

theorem createShipment_awb {now : Int} {random : Fin 9000} {manifest : Except Thrown Json}
    {order : NormalizedCreateOrderRequest} {reply : NormalizedCreateOrderResponse}
    (h : createShipment now random order manifest = .ok reply) :
    ∃ rawResponse, manifest = .ok rawResponse ∧ reply.rawResponse = some rawResponse ∧
      Origin rawResponse reply.awbNumber := by
  obtain ⟨rawResponse, answered, h⟩ := Except.of_bind_ok h
  obtain ⟨⟨awbNumber, courierOrderId⟩, read, h⟩ := Except.of_bind_ok h
  cases h
  refine ⟨rawResponse, answered, rfl, fun seen => ?_⟩
  obtain ⟨names, which, reading⟩ := readCreateResponse_ok read
  have same : awbField? rawResponse awbNames = awbField? rawResponse names := by
    rcases which with rfl | ⟨rfl, items⟩
    · rfl
    · exact awbField?_of_take seen items
  rw [← same] at reading
  by_cases empty : awbNumber = ""
  · refine .inr ⟨?_, now, random, if_pos empty⟩
    rcases reading with ⟨none, -⟩ | ⟨value, found, text⟩
    · simp [hasNoAwb, none]
    · simp [hasNoAwb, found, text, empty]
  · rcases reading with ⟨-, nothing⟩ | ⟨value, found, text⟩
    · exact absurd nothing empty
    · refine .inl ?_
      change Carries rawResponse (if awbNumber = "" then _ else _)
      rw [if_neg empty]
      exact carries_of_awbField? found text

end UrbaneBoltMapper

def CreateOrder.books? : CreateOrder → Answer → Option CourierCall
  | createShipment orderData _ adapter, .booked reply =>
    some (.createShipment adapter orderData (.ok reply))
  | _, _ => none

def Task.books? : Task → Answer → Option CourierCall
  | createOrder call, a => call.books? a
  | bulkItem _ _ call, a => call.books? a
  | reconcile (.createShipment order _ adapter _ _), .booked reply =>
    some (.createShipment adapter order.rawRequestPayload (.ok reply))
  | _, _ => none

def State.books? (s : State) : Label → Option CourierCall
  | .settle i a => s.tasks[i]?.bind (Task.books? · a)
  | _ => none

def CourierCall.FromManifest : CourierCall → Prop
  | createShipment adapter order (.ok reply) =>
    adapter.partnerName = "urbanebolt" → ∃ now random manifest,
      UrbaneBoltMapper.createShipment now random order manifest = .ok reply
  | _ => True

def State.manifested (s : State) (l : Label) : Prop :=
  ∀ call, s.books? l = some call → call.FromManifest

def World.CarriesBooking (w : World) (origin : Json → String → Prop) (x : String) (row : Order) :
    Prop :=
  ∃ adapter order reply, .createShipment adapter order (.ok reply) ∈ w.courierCalls ∧
    order.orderId = x ∧ row.awbNumber = some reply.awbNumber ∧
    (adapter.partnerName = "urbanebolt" → ∃ rawResponse,
      reply.rawResponse = some rawResponse ∧ origin rawResponse reply.awbNumber)

def World.Answered (w : World) (x : String) (reply : NormalizedCreateOrderResponse) : Prop :=
  .ok reply ∈ w.dispatched x

def AwbAnswered (w : World) (x : String) (row : Option Order) : Prop :=
  ∀ stored awbNumber, row = some stored → stored.awbNumber = some awbNumber →
    ∃ reply, w.Answered x reply ∧ reply.awbNumber = awbNumber

section
variable {env : Env} {w w' : World} {task task' : Task} {a : Answer}

theorem Task.Moves.bookings (moved : Moves env w task a w' task') {adapter : Adapter}
    {order : NormalizedCreateOrderRequest} {reply : NormalizedCreateOrderResponse}
    (mem : .createShipment adapter order (.ok reply) ∈ w'.courierCalls) :
    .createShipment adapter order (.ok reply) ∈ w.courierCalls ∨
      task.books? a = some (.createShipment adapter order (.ok reply)) := by
  have ofOrder {call call' : CreateOrder} (moved : OrderService.Moves env w call a w' call') :
      .createShipment adapter order (.ok reply) ∈ w.courierCalls ∨
        call.books? a = some (.createShipment adapter order (.ok reply)) := by
    cases moved with
    | booked => exact (w.mem_record _ mem).imp_right (congrArg some)
    | refused => exact (w.mem_record _ mem).imp_right fun same => by cases same
    | inserted inserted => exact .inl (w.createOrder?_courierCalls inserted ▸ mem)
    | _ => exact .inl mem
  cases moved with
  | createOrder moved => exact ofOrder moved
  | bulkItem moved => exact ofOrder moved
  | createBulkOrders moved => cases moved <;> exact .inl mem
  | trackOrder moved =>
    cases moved with
    | tracked => exact (w.mem_record _ mem).imp_right fun same => by cases same
    | refused => exact (w.mem_record _ mem).imp_right fun same => by cases same
    | _ => exact .inl mem
  | cancelOrder moved =>
    cases moved with
    | agreed => exact (w.mem_record _ mem).imp_right fun same => by cases same
    | refused => exact (w.mem_record _ mem).imp_right fun same => by cases same
    | _ => exact .inl mem
  | reconcile moved =>
    cases moved with
    | booked => exact (w.mem_record _ mem).imp_right (congrArg some)
    | refused => exact (w.mem_record _ mem).imp_right fun same => by cases same
    | _ => exact .inl mem

theorem World.Answered.call {x : String} {reply : NormalizedCreateOrderResponse}
    (h : w.Answered x reply) : ∃ adapter order,
      .createShipment adapter order (.ok reply) ∈ w.courierCalls ∧ order.orderId = x := by
  obtain ⟨call, mem, dispatch⟩ := List.mem_filterMap.mp h
  cases call with
  | createShipment adapter order result =>
    rw [CourierCall.dispatchOf?] at dispatch
    split at dispatch
    next own =>
      cases Option.some.inj dispatch
      exact ⟨adapter, order, mem, own⟩
    next => contradiction
  | _ => contradiction

end

section
variable {env : Env} {now : Int} {x : String} {task : Task} {a : Answer}
  {before after : Option (Stage × Order)} {row row' : Option Order}
  {calls : List (Except Thrown NormalizedCreateOrderResponse)} {w : World}

theorem Turn.awbAnswered (turn : Turn env now x task a before row after row' calls)
    (answered : ∀ reply loaded, before = some (.answered reply, loaded) → w.Answered x reply)
    (h : AwbAnswered w x row) : AwbAnswered w x row' := by
  intro stored awbNumber here awb
  obtain ⟨old, found, earlier | ⟨reply, loaded, held, same⟩⟩ := turn.awb_cases here awb
  · exact h old awbNumber found earlier
  · exact ⟨reply, answered reply loaded held, same⟩

end

structure State.Sourced (s : State) : Prop where
  awbs : s.AwbsKept
  answered : ∀ task ∈ s.tasks, ∀ x reply loaded,
    task.hold? x = some (.answered reply, loaded) → s.world.Answered x reply
  rows : ∀ x, AwbAnswered s.world x (s.world.findOne x)

/-- What holds of the AWBs in runs in which UrbaneBolt is served by its adapter. -/
structure State.Traced (s : State) : Prop where
  awbs : s.AwbsKept
  manifests : ∀ call ∈ s.world.courierCalls, call.FromManifest
  answered : ∀ task ∈ s.tasks, ∀ x reply loaded,
    task.hold? x = some (.answered reply, loaded) → s.world.Answered x reply
  rows : ∀ x, AwbAnswered s.world x (s.world.findOne x)

section
variable {env : Env} {s t : State} {l : Label} {x : String}

theorem World.Answered.record {w w' : World} {reply : NormalizedCreateOrderResponse} {calls}
    (h : w.Answered x reply) (later : w'.dispatched x = w.dispatched x ++ calls) :
    w'.Answered x reply := by
  rw [Answered, later]
  exact List.mem_append_left _ h

theorem World.dispatched_of_courierCalls {w w' : World} (calls : w'.courierCalls = w.courierCalls)
    (x : String) : w'.dispatched x = w.dispatched x := by
  rw [dispatched, calls, dispatched]

theorem State.Sourced.next (h : s.Sourced) (moved : (platform env).next s l = some t) :
    t.Sourced := by
  have moves := State.Moves.of_next moved
  have awbs := h.awbs.next moved
  rcases moves.settled_or_quiet with
    ⟨i, a, task, task', rfl, awaiting, step, tasks⟩ | ⟨calls, rows, settles⟩
  · have mem := List.mem_of_getElem? awaiting
    have turns (x : String) := step.turnsOn (h.awbs.wellFormed.tasks task mem) x
    refine ⟨awbs, fun other otherMem x reply loaded held => ?_, fun x => ?_⟩
    · obtain ⟨calls, dispatched, turn⟩ := turns x
      rw [tasks] at otherMem
      rcases List.mem_or_eq_of_mem_set otherMem with earlier | rfl
      · exact (h.answered other earlier x reply loaded held).record dispatched
      · rw [held] at turn
        obtain ⟨-, rfl⟩ := turn.answered
        rw [World.Answered, dispatched]
        exact List.mem_append_right _ List.mem_cons_self
    · obtain ⟨calls, dispatched, turn⟩ := turns x
      intro stored awbNumber here awb
      obtain ⟨reply, answered, same⟩ :=
        turn.awbAnswered (h.answered task mem x) (h.rows x) stored awbNumber here awb
      exact ⟨reply, answered.record dispatched, same⟩
  · have dispatched := World.dispatched_of_courierCalls calls
    refine ⟨awbs, ?_, fun x stored awbNumber here awb => ?_⟩
    · refine moves.forall_tasks_of_quiet (fun j task found _ x reply loaded held => ?_)
        (fun task quiet x reply loaded held => ?_) fun i a _ _ same => absurd same (settles i a)
      · rw [World.Answered, dispatched]
        exact h.answered task (List.mem_of_getElem? found) x reply loaded held
      · rw [quiet.hold? x] at held
        contradiction
    · rw [rows] at here
      obtain ⟨reply, answered, same⟩ := h.rows x stored awbNumber here awb
      exact ⟨reply, by rwa [World.Answered, dispatched], same⟩

theorem State.Sourced.init : (State.init .empty).Sourced where
  awbs := .init
  answered _ mem := absurd mem List.not_mem_nil
  rows x stored awbNumber found := by simp [State.init, World.empty, World.findOne] at found

theorem State.Traced.sourced (h : s.Traced) : s.Sourced := ⟨h.awbs, h.answered, h.rows⟩

theorem State.Traced.next (h : s.Traced) (guard : s.manifested l)
    (moved : (platform env).next s l = some t) : t.Traced := by
  have sourced := h.sourced.next moved
  refine ⟨sourced.awbs, fun call mem => ?_, sourced.answered, sourced.rows⟩
  rcases (State.Moves.of_next moved).settled_or_quiet with
    ⟨i, a, task, task', rfl, awaiting, step, -⟩ | ⟨calls, -, -⟩
  · cases call with
    | createShipment adapter order result =>
      cases result with
      | error => trivial
      | ok reply =>
        rcases step.bookings mem with earlier | new
        · exact h.manifests _ earlier
        · exact guard _ (by rw [books?, awaiting]; exact new)
    | _ => trivial
  · exact h.manifests call (calls ▸ mem)

theorem State.Traced.init : (State.init .empty).Traced where
  awbs := .init
  manifests _ mem := absurd mem List.not_mem_nil
  answered := State.Sourced.init.answered
  rows := State.Sourced.init.rows

/-- In every interleaving, whatever fails, a `CREATED` order carries the AWB of a dispatch of this
order that was answered with success. Where UrbaneBolt answered, the AWB is a value in the
body, or the body has none and the mapper has made one up. -/
theorem created_awb_provenance {row : Order}
    (reach : (platform env).Reaches State.manifested (State.init .empty) s)
    (stored : s.world.findOne x = some row) (created : row.status = .created) :
    s.world.CarriesBooking UrbaneBoltMapper.Origin x row := by
  have traced : s.Traced :=
    reach.invariant State.Traced .init fun _ _ _ inv guard moved => inv.next guard moved
  have present := traced.awbs.shipped x row stored (by rw [created]; rfl)
  obtain ⟨awbNumber, awb⟩ := Option.ne_none_iff_exists'.mp present
  obtain ⟨reply, answered, rfl⟩ := traced.rows x row awbNumber stored awb
  obtain ⟨adapter, order, mem, own⟩ := answered.call
  refine ⟨adapter, order, reply, mem, own, awb, fun urbanebolt => ?_⟩
  obtain ⟨now, random, manifest, made⟩ := traced.manifests _ mem urbanebolt
  obtain ⟨rawResponse, -, kept, origin⟩ := UrbaneBoltMapper.createShipment_awb made
  exact ⟨rawResponse, kept, origin⟩

end

def CourierCall.madeFrom (rawResponse : Json) : CourierCall → Bool
  | createShipment _ order (.ok reply) =>
    (UrbaneBoltMapper.createShipment 0 0 order (.ok rawResponse)).toOption = some reply
  | _ => true

theorem CourierCall.fromManifest_of_madeFrom {rawResponse : Json} {call : CourierCall}
    (h : call.madeFrom rawResponse = true) : call.FromManifest := by
  cases call with
  | createShipment adapter order result =>
    cases result with
    | error => trivial
    | ok reply =>
      intro _
      refine ⟨0, 0, .ok rawResponse, ?_⟩
      simp only [madeFrom, decide_eq_true_eq] at h
      cases made : UrbaneBoltMapper.createShipment 0 0 order (.ok rawResponse) with
      | error => rw [made] at h; contradiction
      | ok other => rw [made] at h; exact congrArg Except.ok (Option.some.inj h)
  | _ => trivial

def answeredWith (rawResponse : Json) : List Label :=
  let orderData := parcel "A-1" "urbanebolt"
  [.start (.createOrder orderData), .settle 0 .ok, .settle 0 .ok] ++
    match UrbaneBoltMapper.createShipment 0 0 orderData (.ok rawResponse) with
    | .ok reply => [.settle 0 (.booked reply), .settle 0 .ok]
    | .error error => [.settle 0 (.refused error), .settle 0 .ok]

theorem manifested_of_run (rawResponse : Json) (script : List Label) (test : State → Bool)
    (h : (production.run (fun s l => (s.books? l).all (CourierCall.madeFrom rawResponse))
      (State.init .empty) script).any test = true) :
    ∃ s, production.Reaches State.manifested (State.init .empty) s ∧ test s = true := by
  obtain ⟨s, reach, passed⟩ := Machine.Reaches.of_run_any production _ _ _ _ h
  refine ⟨s, reach.mono fun r l allowed call books => ?_, passed⟩
  rw [books, Option.all_some] at allowed
  exact CourierCall.fromManifest_of_madeFrom allowed

theorem created_awb_provenance_manifest :
    ∃ (s : State) (row : Order), s.world.findOne "A-1" = some row ∧ row.status = .created ∧
      row.awbNumber = some "7001" ∧
      s.world.CarriesBooking UrbaneBoltMapper.Origin "A-1" row := by
  let manifest : Json := .array [.object [("awb", .string "7001"), ("order_id", .string "A-1")]]
  obtain ⟨s, reach, test⟩ := manifested_of_run manifest (answeredWith manifest)
    (fun s => (s.world.findOne "A-1").any fun row =>
      row.status = .created && row.awbNumber = some "7001") (by decide)
  obtain ⟨row, stored, same⟩ := (Option.any_eq_true _ _).mp test
  simp only [Bool.and_eq_true, decide_eq_true_eq] at same
  exact ⟨s, row, stored, same.1, same.2, created_awb_provenance reach stored same.1⟩

/-- An answer with an empty object makes the order `CREATED` under an AWB the courier never
issued. -/
theorem created_without_issued_awb :
    ¬ ∀ env s x row, (platform env).Reaches State.manifested (State.init .empty) s →
      s.world.findOne x = some row → row.status = .created →
      s.world.CarriesBooking UrbaneBoltMapper.Carries x row := by
  intro claim
  obtain ⟨s, reach, test⟩ := manifested_of_run (.object []) (answeredWith (.object []))
    (fun s => (s.world.findOne "A-1").any (·.status = .created) &&
      s.world.courierCalls.all fun
        | .createShipment adapter _ (.ok reply) =>
          adapter.partnerName = "urbanebolt" && reply.rawResponse = some (.object [])
        | _ => true) (by decide)
  obtain ⟨booked, calls⟩ := Bool.and_eq_true_iff.mp test
  obtain ⟨row, stored, created⟩ := (Option.any_eq_true _ _).mp booked
  obtain ⟨adapter, order, reply, mem, -, -, origin⟩ :=
    claim _ s "A-1" row reach stored (by simpa using created)
  have answered := List.all_eq_true.mp calls _ mem
  simp only [Bool.and_eq_true, decide_eq_true_eq] at answered
  obtain ⟨rawResponse, kept, name, -, value, found, -⟩ := origin answered.1
  cases answered.2.symm.trans kept
  contradiction

end CourierPlatform
