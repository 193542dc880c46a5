import CourierPlatform.Proofs.StoredAwb

/-! Whose AWB a row carries. Tracking and cancellation pick the adapter by the row's
`courier_partner`, a dispatch by the request's; the column is written when the row is
inserted and never again. -/
namespace CourierPlatform
open Library

def CourierCall.issues? : CourierCall → Option (Adapter × String)
  | createShipment adapter _ (.ok reply) => some (adapter, reply.awbNumber)
  | _ => none

def World.issued (w : World) : List (Adapter × String) :=
  w.courierCalls.filterMap CourierCall.issues?

def Task.uses? : Task → Option (Adapter × String)
  | trackOrder (.trackShipment _ awbNumber adapter) => some (adapter, awbNumber)
  | cancelOrder (.cancelShipment order adapter _) => order.awbNumber.map (adapter, ·)
  | _ => none

def Env.adapter? (env : Env) (partnerName : String) : Option Adapter :=
  (env.registry.get env.js partnerName).toOption

def Task.submits? : Task → Option NormalizedCreateOrderRequest
  | createOrder (.findOne orderData) => some orderData
  | bulkItem _ _ (.findOne orderData) => some orderData
  | _ => none

def Env.agrees (env : Env) (orderData : NormalizedCreateOrderRequest) (row : Order) : Bool :=
  (env.adapter? orderData.courierPartner).all fun adapter =>
    env.adapter? row.courierPartner = some adapter

/-- An order that is open is resubmitted only with the partner of its row. -/
def State.partnersAgree (env : Env) (s : State) : Label → Bool
  | .settle i .ok =>
    (s.tasks[i]?.bind Task.submits?).all fun orderData =>
      (s.world.findOne orderData.orderId).all fun row =>
        !row.status.isOpen || env.agrees orderData row
  | _ => true

/-- Different bookings have different AWBs. -/
def State.freshAwb (s : State) : Label → Bool
  | .settle _ (.booked reply) => reply.awbNumber ∉ s.world.issued.map Prod.snd
  | _ => true

def World.HasPartner (w : World) (order : Order) : Prop :=
  ∃ row, w.findOne order.orderId = some row ∧ row.courierPartner = order.courierPartner

def Env.Issued (env : Env) (w : World) (courierPartner awbNumber : String) : Prop :=
  ∃ adapter, env.adapter? courierPartner = some adapter ∧ (adapter, awbNumber) ∈ w.issued

structure World.Extends (w w' : World) : Prop where
  rows : ∀ x row, w.findOne x = some row →
    ∃ row', w'.findOne x = some row' ∧ row'.courierPartner = row.courierPartner
  issued : ∀ entry ∈ w.issued, entry ∈ w'.issued

def CreateOrder.KnowsPartner (env : Env) (w : World) : CreateOrder → Prop
  | updateExisting orderData existingOrder =>
    w.HasPartner existingOrder ∧ env.agrees orderData existingOrder = true
  | createShipment _ persistedOrder adapter =>
    w.HasPartner persistedOrder ∧ env.adapter? persistedOrder.courierPartner = some adapter
  | saveUpdate _ courierResponse persistedOrder =>
    w.HasPartner persistedOrder ∧
      env.Issued w persistedOrder.courierPartner courierResponse.awbNumber
  | _ => True

def Reconcile.KnowsPartner (env : Env) (w : World) : Reconcile → Prop
  | createShipment order _ adapter rest _ =>
    (w.HasPartner order ∧ env.adapter? order.courierPartner = some adapter) ∧
      ∀ later ∈ rest, w.HasPartner later
  | updateCreated order _ courierResponse rest _ =>
    (w.HasPartner order ∧ env.Issued w order.courierPartner courierResponse.awbNumber) ∧
      ∀ later ∈ rest, w.HasPartner later
  | updateUnsupported _ _ rest _ => ∀ later ∈ rest, w.HasPartner later
  | createEvent _ _ _ rest _ => ∀ later ∈ rest, w.HasPartner later
  | updateCaught _ _ _ rest _ => ∀ later ∈ rest, w.HasPartner later
  | _ => True

/-- What a call in flight knows of the partners of the orders it works on. -/
def Task.KnowsPartner (env : Env) (w : World) : Task → Prop
  | createOrder call => call.KnowsPartner env w
  | bulkItem _ _ call => call.KnowsPartner env w
  | reconcile cycle => cycle.KnowsPartner env w
  | trackOrder (.trackShipment _ awbNumber adapter) => (adapter, awbNumber) ∈ w.issued
  | cancelOrder (.cancelShipment order adapter _) =>
    ∀ awbNumber, order.awbNumber = some awbNumber → (adapter, awbNumber) ∈ w.issued
  | _ => True

def World.Coherent (env : Env) (w : World) : Prop :=
  ∀ x row awbNumber, w.findOne x = some row → row.awbNumber = some awbNumber →
    env.Issued w row.courierPartner awbNumber

section
variable {env : Env} {w w' : World}

theorem World.HasPartner.extend {order : Order} (h : w.HasPartner order) (later : w.Extends w') :
    w'.HasPartner order := by
  obtain ⟨row, stored, same⟩ := h
  obtain ⟨row', stored', same'⟩ := later.rows _ row stored
  exact ⟨row', stored', same'.trans same⟩

theorem Env.Issued.extend {courierPartner awbNumber : String}
    (h : env.Issued w courierPartner awbNumber) (later : w.Extends w') :
    env.Issued w' courierPartner awbNumber := by
  obtain ⟨adapter, registered, issued⟩ := h
  exact ⟨adapter, registered, later.issued _ issued⟩

theorem Task.KnowsPartner.extend {task : Task} (h : task.KnowsPartner env w)
    (later : w.Extends w') : task.KnowsPartner env w' := by
  have order (call : CreateOrder) (known : call.KnowsPartner env w) :
      call.KnowsPartner env w' := by
    cases call with
    | updateExisting => exact ⟨known.1.extend later, known.2⟩
    | createShipment => exact ⟨known.1.extend later, known.2⟩
    | saveUpdate => exact ⟨known.1.extend later, known.2.extend later⟩
    | _ => trivial
  cases task with
  | createOrder call => exact order call h
  | bulkItem bulk index call => exact order call h
  | reconcile cycle =>
    cases cycle with
    | createShipment =>
      exact ⟨⟨h.1.1.extend later, h.1.2⟩, fun o mem => (h.2 o mem).extend later⟩
    | updateCreated =>
      exact ⟨⟨h.1.1.extend later, h.1.2.extend later⟩, fun o mem => (h.2 o mem).extend later⟩
    | updateUnsupported => exact fun o mem => (h o mem).extend later
    | createEvent => exact fun o mem => (h o mem).extend later
    | updateCaught => exact fun o mem => (h o mem).extend later
    | _ => trivial
  | trackOrder call =>
    cases call with
    | trackShipment => exact later.issued _ h
    | _ => trivial
  | cancelOrder call =>
    cases call with
    | cancelShipment => exact fun awbNumber awb => later.issued _ (h awbNumber awb)
    | _ => trivial
  | _ => trivial

theorem Task.Quiet.knowsPartner {task : Task} (h : task.Quiet) : task.KnowsPartner env w := by
  cases task with
  | createOrder call => cases call <;> trivial
  | bulkItem bulk index call => cases call <;> trivial
  | reconcile cycle => cases cycle <;> trivial
  | trackOrder call => cases call <;> trivial
  | cancelOrder call => cases call <;> trivial
  | _ => trivial

theorem World.issued_record (w : World) (call : CourierCall) :
    (w.record call).issued = w.issued ++ call.issues?.toList := by
  simp only [issued, record_courierCalls, List.filterMap_append]
  cases result : call.issues? <;> simp [result]

theorem OrderService.Moves.issued {call call' : CreateOrder} {a : Answer}
    (moved : Moves env w call a w' call') :
    w'.issued = w.issued ∨ ∃ adapter reply, a = .booked reply ∧
      w'.issued = w.issued ++ [(adapter, reply.awbNumber)] := by
  cases moved with
  | booked => exact .inr ⟨_, _, rfl, w.issued_record _⟩
  | refused => exact .inl ((w.issued_record _).trans (List.append_nil _))
  | inserted inserted =>
    exact .inl (congrArg (List.filterMap CourierCall.issues?)
      (w.createOrder?_courierCalls inserted))
  | _ => exact .inl rfl

theorem Task.Moves.issued {task task' : Task} {a : Answer} (moved : Moves env w task a w' task') :
    w'.issued = w.issued ∨ ∃ adapter reply, a = .booked reply ∧
      w'.issued = w.issued ++ [(adapter, reply.awbNumber)] := by
  cases moved with
  | createOrder moved => exact moved.issued
  | bulkItem moved => exact moved.issued
  | createBulkOrders moved => cases moved <;> exact .inl rfl
  | trackOrder moved =>
    cases moved with
    | tracked => exact .inl ((w.issued_record _).trans (List.append_nil _))
    | refused => exact .inl ((w.issued_record _).trans (List.append_nil _))
    | _ => exact .inl rfl
  | cancelOrder moved =>
    cases moved with
    | agreed => exact .inl ((w.issued_record _).trans (List.append_nil _))
    | refused => exact .inl ((w.issued_record _).trans (List.append_nil _))
    | _ => exact .inl rfl
  | reconcile moved =>
    cases moved with
    | booked => exact .inr ⟨_, _, rfl, w.issued_record _⟩
    | refused => exact .inl ((w.issued_record _).trans (List.append_nil _))
    | _ => exact .inl rfl

theorem Task.Moves.extends {task task' : Task} {a : Answer} (moved : Moves env w task a w' task')
    (wellFormed : task.WellFormed) : w.Extends w' where
  rows x row stored := by
    obtain ⟨calls, -, turn⟩ := moved.turnsOn wellFormed x
    rw [stored] at turn
    exact turn.keepsPartner
  issued entry mem := by
    rcases moved.issued with same | ⟨adapter, reply, -, new⟩
    · rw [same]; exact mem
    · rw [new]; exact List.mem_append_left _ mem

theorem Env.adapter?_of_get {partnerName : String} {adapter : Adapter}
    (registered : env.registry.get env.js partnerName = .ok adapter) :
    env.adapter? partnerName = some adapter := by
  rw [adapter?, registered]
  rfl

theorem Env.adapter?_of_agrees {orderData : NormalizedCreateOrderRequest} {row : Order}
    {adapter : Adapter} (h : env.agrees orderData row = true)
    (registered : env.registry.get env.js orderData.courierPartner = .ok adapter) :
    env.adapter? row.courierPartner = some adapter := by
  simpa [agrees, adapter?_of_get registered] using h

theorem OrderService.Moves.knowsPartner {call call' : CreateOrder} {a : Answer}
    (moved : Moves env w call a w' call') (known : call.KnowsPartner env w)
    (later : w.Extends w')
    (agree : ∀ orderData row, call = .findOne orderData → a = .ok →
      w.findOne orderData.orderId = some row → row.status.isOpen = true →
      env.agrees orderData row = true) :
    call'.KnowsPartner env w' := by
  cases moved with
  | readOpen found isOpen =>
    have own := World.orderId_of_findOne w found
    exact ⟨⟨_, own ▸ found, rfl⟩, agree _ _ rfl rfl found isOpen⟩
  | @prePersisted orderData existing =>
    rcases dispatch_cases env orderData (existing.assign w.now (pendingPatch orderData)) with
      ⟨_, rejected⟩ | ⟨adapter, registered, dispatched⟩
    · rw [rejected]; trivial
    · rw [dispatched]; exact ⟨known.1.extend later, Env.adapter?_of_agrees known.2 registered⟩
  | @inserted orderData created inserted =>
    rcases dispatch_cases env orderData (pendingOrder orderData w.now) with
      ⟨_, rejected⟩ | ⟨adapter, registered, dispatched⟩
    · rw [rejected]; trivial
    · have stored : w'.findOne orderData.orderId = some (pendingOrder orderData w.now) :=
        (w.findOne_createOrder? inserted _).trans (if_pos rfl)
      rw [dispatched]
      exact ⟨⟨_, stored, rfl⟩, Env.adapter?_of_get registered⟩
  | booked =>
    refine ⟨known.1.extend later, _, known.2, ?_⟩
    rw [World.issued_record]
    exact List.mem_append_right _ List.mem_cons_self
  | _ => trivial

theorem ReconciliationWorker.nextOrder_knowsPartner {count : Nat} {rest : List Order}
    (h : ∀ later ∈ rest, w.HasPartner later) :
    (nextOrder env count rest).KnowsPartner env w := by
  cases rest with
  | nil => trivial
  | cons order rest =>
    have others : ∀ later ∈ rest, w.HasPartner later :=
      fun later mem => h later (List.mem_cons_of_mem _ mem)
    rcases reconcileSingleOrder_cases env order rest count with ⟨adapter, registered, same⟩ | same
    · rw [nextOrder, same]
      exact ⟨⟨h order List.mem_cons_self, Env.adapter?_of_get registered⟩, others⟩
    · rw [nextOrder, same]
      exact others

theorem ReconciliationWorker.Moves.knowsPartner {cycle cycle' : Reconcile} {a : Answer}
    (moved : Moves env w cycle a w' cycle') (known : cycle.KnowsPartner env w)
    (later : w.Extends w') : cycle'.KnowsPartner env w' := by
  have extend {orders : List Order} (h : ∀ order ∈ orders, w.HasPartner order) :
      ∀ order ∈ orders, w'.HasPartner order := fun order mem => (h order mem).extend later
  cases moved with
  | selected result =>
    exact nextOrder_knowsPartner fun order mem => ⟨order, (mem_result mem).2, rfl⟩
  | unsupported => exact nextOrder_knowsPartner (extend known)
  | unsupportedLost => exact known
  | booked =>
    refine ⟨⟨known.1.1.extend later, _, known.1.2, ?_⟩, extend known.2⟩
    rw [World.issued_record]
    exact List.mem_append_right _ List.mem_cons_self
  | refused => exact extend known.2
  | recorded => exact extend known.2
  | recordLost => exact known.2
  | recovered => exact nextOrder_knowsPartner (extend known)
  | eventLost => exact known
  | caught => exact nextOrder_knowsPartner (extend known)
  | aborted => trivial

theorem World.Coherent.issued (h : w.Coherent env) {x awbNumber : String} {row : Order}
    {adapter : Adapter} (stored : w.findOne x = some row) (awb : row.awbNumber = some awbNumber)
    (registered : env.registry.get env.js row.courierPartner = .ok adapter) :
    (adapter, awbNumber) ∈ w.issued := by
  obtain ⟨other, same, issued⟩ := h x row awbNumber stored awb
  rw [Env.adapter?_of_get registered] at same
  cases same
  exact issued

theorem TrackingService.nextEvent_knowsPartner (order : Order) (reply : NormalizedTrackingResponse)
    (history : List TrackingEventItem) :
    (Task.trackOrder (nextEvent order reply history)).KnowsPartner env w := by
  cases history <;> trivial

theorem Task.Moves.knowsPartner {task task' : Task} {a : Answer}
    (moved : Moves env w task a w' task') (known : task.KnowsPartner env w)
    (later : w.Extends w') (coherent : w.Coherent env)
    (agree : ∀ orderData row, task.submits? = some orderData → a = .ok →
      w.findOne orderData.orderId = some row → row.status.isOpen = true →
      env.agrees orderData row = true) :
    task'.KnowsPartner env w' := by
  cases moved with
  | createOrder moved =>
    refine moved.knowsPartner known later fun orderData row same => ?_
    subst same
    exact agree orderData row rfl
  | bulkItem moved =>
    refine moved.knowsPartner known later fun orderData row same => ?_
    subst same
    exact agree orderData row rfl
  | createBulkOrders => trivial
  | reconcile moved => exact moved.knowsPartner known later
  | trackOrder moved =>
    cases moved with
    | read found awb nonempty registered => exact coherent.issued found awb registered
    | tracked =>
      unfold TrackingService.updateOrderStatusIfChanged
      split
      · trivial
      · exact TrackingService.nextEvent_knowsPartner _ _ _
    | statusUpdated => exact TrackingService.nextEvent_knowsPartner _ _ _
    | eventFound => exact TrackingService.nextEvent_knowsPartner _ _ _
    | eventAdded => exact TrackingService.nextEvent_knowsPartner _ _ _
    | _ => trivial
  | cancelOrder moved =>
    cases moved with
    | read found notCancelled notDelivered registered =>
      exact fun awbNumber awb => coherent.issued found awb registered
    | _ => trivial

theorem Task.KnowsPartner.answered {task : Task} {x : String} {loaded : Order}
    {reply : NormalizedCreateOrderResponse} (h : task.KnowsPartner env w)
    (held : task.hold? x = some (.answered reply, loaded)) :
    w.HasPartner loaded ∧ env.Issued w loaded.courierPartner reply.awbNumber := by
  have mem := List.mem_of_find?_eq_some held
  cases task with
  | createOrder call =>
    cases call <;> simp [holds, CreateOrder.hold?] at mem
    obtain ⟨rfl, rfl⟩ := mem
    exact h
  | bulkItem bulk index call =>
    cases call <;> simp [holds, CreateOrder.hold?] at mem
    obtain ⟨rfl, rfl⟩ := mem
    exact h
  | reconcile cycle =>
    cases cycle <;> simp [holds, Reconcile.holds] at mem
    obtain ⟨rfl, rfl⟩ := mem
    exact h.1
  | _ => simp [holds] at mem

theorem Turn.coherent {now : Int} {x : String} {task : Task} {a : Answer}
    {before after : Option (Stage × Order)} {row row' : Option Order} {calls}
    (turn : Turn env now x task a before row after row' calls)
    (known : ∀ reply loaded stored, before = some (.answered reply, loaded) → row = some stored →
      env.Issued w stored.courierPartner reply.awbNumber)
    (coherent : ∀ stored awbNumber, row = some stored → stored.awbNumber = some awbNumber →
      env.Issued w stored.courierPartner awbNumber) :
    ∀ stored awbNumber, row' = some stored → stored.awbNumber = some awbNumber →
      env.Issued w stored.courierPartner awbNumber := by
  intro stored' awbNumber here awb
  obtain ⟨stored, found, earlier | ⟨reply, loaded, held, rfl⟩⟩ := turn.awb_cases here awb
  all_goals
    subst found
    obtain ⟨_, same, partner⟩ := turn.keepsPartner
    cases here.symm.trans same
    rw [partner]
  · exact coherent stored awbNumber rfl earlier
  · exact known reply loaded stored held rfl

end

structure State.PartnersKnown (env : Env) (s : State) : Prop where
  wellFormed : s.WellFormed
  distinct : (s.world.issued.map Prod.snd).Nodup
  coherent : s.world.Coherent env
  known : ∀ task ∈ s.tasks, task.KnowsPartner env s.world

def State.partnerGuarded (env : Env) (s : State) (l : Label) : Prop :=
  s.partnersAgree env l = true ∧ s.freshAwb l = true

instance (env : Env) (s : State) (l : Label) : Decidable (s.partnerGuarded env l) :=
  inferInstanceAs (Decidable (_ ∧ _))

section
variable {env : Env} {s t : State} {l : Label}

theorem State.PartnersKnown.next (h : s.PartnersKnown env) (guard : s.partnerGuarded env l)
    (moved : (platform env).next s l = some t) : t.PartnersKnown env := by
  have wellFormed := h.wellFormed.next moved
  have moves := State.Moves.of_next moved
  rcases moves.settled_or_quiet with
    ⟨i, a, task, task', rfl, awaiting, step, tasks⟩ | ⟨calls, rows, settles⟩
  · have mem := List.mem_of_getElem? awaiting
    have later := step.extends (h.wellFormed.tasks task mem)
    refine ⟨wellFormed, ?_, fun x row awbNumber stored awb => ?_, fun other otherMem => ?_⟩
    · rcases step.issued with same | ⟨adapter, reply, rfl, new⟩
      · simpa only [same] using h.distinct
      · have fresh : reply.awbNumber ∉ s.world.issued.map Prod.snd := by
          simpa only [freshAwb, decide_eq_true_eq] using guard.2
        simp only [new, List.map_append, List.map_singleton]
        refine List.nodup_append.mpr ⟨h.distinct, List.nodup_singleton _, ?_⟩
        intro old oldMem added addedMem same
        rw [List.mem_singleton.mp addedMem] at same
        exact fresh (same ▸ oldMem)
    · obtain ⟨calls, -, turn⟩ := step.turnsOn (h.wellFormed.tasks task mem) x
      refine (turn.coherent (fun reply loaded old held found => ?_)
        (fun old number => h.coherent x old number) row awbNumber stored awb).extend later
      obtain ⟨⟨other, sameRow, partner⟩, issued⟩ := (h.known task mem).answered held
      have own : loaded.orderId = x := by simpa using List.find?_some held
      rw [own, found] at sameRow
      cases sameRow
      rw [partner]
      exact issued
    · rw [tasks] at otherMem
      rcases List.mem_or_eq_of_mem_set otherMem with earlier | rfl
      · exact (h.known other earlier).extend later
      · refine step.knowsPartner (h.known task mem) later h.coherent ?_
        rintro orderData row submits rfl stored isOpen
        simpa [partnersAgree, awaiting, submits, stored, isOpen] using guard.1
  · have issued : t.world.issued = s.world.issued := by
      rw [World.issued, calls, World.issued]
    have later : s.world.Extends t.world :=
      ⟨fun x row stored => ⟨row, rows ▸ stored, rfl⟩, fun entry mem => issued ▸ mem⟩
    refine ⟨wellFormed, issued ▸ h.distinct, fun x row awbNumber stored awb => ?_, ?_⟩
    · exact (h.coherent x row awbNumber (rows ▸ stored) awb).extend later
    · exact moves.forall_tasks_of_quiet
        (fun j task found _ => (h.known task (List.mem_of_getElem? found)).extend later)
        (fun task quiet => quiet.knowsPartner) fun i a _ _ same => absurd same (settles i a)

theorem State.PartnersKnown.init : (State.init .empty).PartnersKnown env where
  wellFormed := .init .empty
  distinct := List.nodup_nil
  coherent x row awbNumber found := by simp [State.init, World.empty, World.findOne] at found
  known _ mem := absurd mem List.not_mem_nil

theorem Task.KnowsPartner.uses {task : Task} {w : World} {adapter : Adapter} {awbNumber : String}
    (h : task.KnowsPartner env w) (uses : task.uses? = some (adapter, awbNumber)) :
    (adapter, awbNumber) ∈ w.issued := by
  cases task with
  | trackOrder call =>
    cases call with
    | trackShipment => cases uses; exact h
    | _ => cases uses
  | cancelOrder call =>
    cases call with
    | cancelShipment order =>
      obtain ⟨number, awb, same⟩ := Option.map_eq_some_iff.mp uses
      cases same
      exact h _ awb
    | _ => cases uses
  | _ => cases uses

/-- Whenever a call tracks or cancels an AWB, the adapter it asks is the one, and the only one,
that issued it: in every interleaving, whatever fails, if open orders are resubmitted only
with the partner of their row and different bookings have different AWBs. -/
theorem partner_issued_awb {task : Task} {adapter : Adapter} {awbNumber : String}
    (reach : (platform env).Reaches (State.partnerGuarded env) (State.init .empty) s)
    (mem : task ∈ s.tasks) (uses : task.uses? = some (adapter, awbNumber)) :
    (adapter, awbNumber) ∈ s.world.issued ∧
      ∀ other, (other, awbNumber) ∈ s.world.issued → other = adapter := by
  have known : s.PartnersKnown env :=
    reach.invariant (State.PartnersKnown env) .init fun _ _ _ inv guard moved =>
      inv.next guard moved
  have issued := (known.known task mem).uses uses
  refine ⟨issued, fun other also => ?_⟩
  have same := List.inj_on_of_nodup_map known.distinct also issued rfl
  exact congrArg Prod.fst same

end

def resubmissionWith (first second : String) : List Label :=
  let orderData := parcel "A-1" second
  [.start (.createOrder (parcel "A-1" first)), .settle 0 .ok, .settle 0 .ok,
    .settle 0 (.refused (.error "timeout")), .settle 0 .ok, .start (.createOrder orderData),
    .settle 1 .ok, .settle 1 .ok, .settle 1 (.booked (bookingReply orderData "MCK1")),
    .settle 1 .ok, .start (.trackOrder "A-1"), .settle 2 .ok]

theorem partner_issued_awb_resubmission :
    ∃ s : State, s.tasks[2]?.bind Task.uses? = some (⟨"mock"⟩, "MCK1") ∧
      (⟨"mock"⟩, "MCK1") ∈ s.world.issued ∧
      ∀ other, (other, "MCK1") ∈ s.world.issued → other = ⟨"mock"⟩ := by
  obtain ⟨s, reach, test⟩ := Machine.Reaches.of_run_any production
    (State.partnerGuarded (defaultEnv .postgres .named)) (State.init .empty)
    (resubmissionWith "mock" "mock")
    (fun s => s.tasks[2]?.bind Task.uses? = some (⟨"mock"⟩, "MCK1")) (by decide)
  have found : s.tasks[2]?.bind Task.uses? = some (⟨"mock"⟩, "MCK1") := by simpa using test
  obtain ⟨task, awaiting, uses⟩ := Option.bind_eq_some_iff.mp found
  exact ⟨s, found, partner_issued_awb reach (List.mem_of_getElem? awaiting) uses⟩

/-- The order is booked by the second partner while its row still names the first, which is then
asked to track an AWB it never issued. -/
theorem tracked_with_wrong_partner :
    ¬ ∀ env s task adapter awbNumber,
      (platform env).Reaches (fun s l => s.sequential l = true ∧ s.freshAwb l = true)
        (State.init .empty) s →
      task ∈ s.tasks → task.uses? = some (adapter, awbNumber) →
      (adapter, awbNumber) ∈ s.world.issued ∧
        ∀ other, (other, awbNumber) ∈ s.world.issued → other = adapter := by
  intro claim
  obtain ⟨s, reach, test⟩ := Machine.Reaches.of_run_any production
    (fun s l => s.sequential l = true ∧ s.freshAwb l = true) (State.init .empty)
    (resubmissionWith "urbanebolt" "mock")
    (fun s => s.tasks[2]?.bind Task.uses? = some (⟨"urbanebolt"⟩, "MCK1") &&
      s.world.issued = [(⟨"mock"⟩, "MCK1")]) (by decide)
  simp only [Bool.and_eq_true, decide_eq_true_eq] at test
  obtain ⟨task, awaiting, uses⟩ := Option.bind_eq_some_iff.mp test.1
  obtain ⟨issued, -⟩ := claim _ s task _ _ reach (List.mem_of_getElem? awaiting) uses
  rw [test.2] at issued
  simp at issued

end CourierPlatform
