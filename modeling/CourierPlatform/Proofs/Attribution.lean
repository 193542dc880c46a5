import CourierPlatform.Proofs.OwnOrder
import CourierPlatform.Spec.Attribution

/-! Log records of the items of a batch. The context is right for an item for as long as no other item of
the request has begun after it; a record that names its order itself is right at any time. -/
namespace CourierPlatform
open Js Library

/-! ## One record -/

section
variable {message : LogMessage} {context : RequestContext} {own orderId : String}

theorem injectField_cases (context info : Option String) :
    injectField context info = info ∨
      injectField context info = context ∧ info.any (· ≠ "") = false := by
  unfold injectField
  split
  next inject =>
    rw [Bool.and_eq_true, Bool.not_eq_true'] at inject
    exact .inr ⟨rfl, inject.2⟩
  next => exact .inl rfl

theorem LogMessage.info_orderId (message : LogMessage) (context : RequestContext) :
    (message.info context).orderId = message.ownOrderId? ∨
      message.ownOrderId? = none ∧ (message.info context).orderId = context.orderId := by
  cases message <;> simp [info, ownOrderId?]

theorem orderId_of_contextFormat (named : ∀ x ∈ message.ownOrderId?, x = own)
    (turn : message.ownOrderId?.any (· ≠ "") = true ∨ context.orderId = some own)
    (here : (contextFormat context (message.info context)).orderId = some orderId) : orderId = own := by
  change injectField context.orderId (message.info context).orderId = some orderId at here
  have field := message.info_orderId context
  rcases injectField_cases context.orderId (message.info context).orderId with kept | ⟨injected, unset⟩
  · rw [kept] at here
    rcases field with same | ⟨unnamed, same⟩
    · exact named orderId (same.symm.trans here)
    · rw [unnamed] at turn
      rw [same, turn.resolve_left Bool.false_ne_true] at here
      exact (Option.some.inj here).symm
  · rw [injected] at here
    have latest : context.orderId = some own := by
      apply turn.resolve_left
      rcases field with same | ⟨unnamed, -⟩
      · rw [← same, unset]
        exact Bool.false_ne_true
      · rw [unnamed]
        exact Bool.false_ne_true
    rw [latest] at here
    exact (Option.some.inj here).symm

theorem orderId_of_unnamed (unnamed : message.ownOrderId?.any (· ≠ "") = false)
    (latest : context.orderId = some orderId) (text : orderId ≠ "") :
    (contextFormat context (message.info context)).orderId = some orderId := by
  change injectField context.orderId (message.info context).orderId = some orderId
  have set : context.orderId.any (· ≠ "") = true := by simp [latest, text]
  unfold injectField
  rcases message.info_orderId context with same | ⟨-, same⟩
  · rw [same, unnamed, set]
    exact latest
  · rw [same, ite_self]
    exact latest

end

theorem CreateOrder.About.messages {x : String} {call call' : CreateOrder} (about : call.About x)
    (after : call'.About x) {answer : Answer} {message : LogMessage}
    (logged : message ∈ call.messages answer call') : ∀ orderId ∈ message.ownOrderId?, orderId = x := by
  intro orderId named
  unfold CreateOrder.messages at logged
  split at logged
  next =>
    cases List.mem_singleton.mp logged
    contradiction
  next =>
    cases List.mem_singleton.mp logged
    exact Option.some.inj named ▸ about.carried _ rfl
  next =>
    cases List.mem_singleton.mp logged
    contradiction
  next =>
    cases List.mem_singleton.mp logged
    contradiction
  next =>
    cases List.mem_singleton.mp logged
    exact Option.some.inj named ▸ after.request _ rfl
  next => contradiction

theorem RequestCall.retryMessages_unnamed (call : RequestCall) :
    ∀ message ∈ call.retryMessages, message.ownOrderId? = none := by
  cases call with
  | sleeping => simp [retryMessages, LogMessage.ownOrderId?]
  | _ => simp [retryMessages]

theorem RequestCall.answerMessages_unnamed (config : ClientConfig) (retries : RetryState)
    (token : String) (outcome : HttpOutcome) :
    ∀ message ∈ answerMessages config retries token outcome, message.ownOrderId? = none := by
  have retried := (answered config retries token outcome).retryMessages_unnamed
  unfold answerMessages
  dsimp only
  split
  · split
    · simp [LogMessage.ownOrderId?]
    · rw [List.forall_mem_cons]
      refine ⟨?_, retried⟩
      split <;> rfl
  · exact retried

theorem ClientsState.messages_unnamed {config : ClientConfig} {s : ClientsState} {l : ClientsLabel}
    {call : Nat} {messages : List LogMessage} (found : s.messages config l = some (call, messages)) :
    ∀ message ∈ messages, message.ownOrderId? = none := by
  have authenticates (client : Nat) : ∀ message ∈ (if (s.isAuthenticating client).isNone then
      [LogMessage.authenticating] else []), message.ownOrderId? = none := by
    split <;> simp [LogMessage.ownOrderId?]
  unfold ClientsState.messages at found
  cases l with
  | answer i outcome =>
    dsimp only at found
    split at found
    · cases found
      exact RequestCall.answerMessages_unnamed _ _ _ _
    · contradiction
  | resume i =>
    dsimp only at found
    split at found
    · cases found
      split
      · simp
      · exact authenticates _
    · cases found
      exact authenticates _
    · split at found
      · cases found
        exact RequestCall.retryMessages_unnamed _
      · contradiction
    · contradiction
  | resumeFetch k =>
    dsimp only at found
    split at found
    · cases found
      simp [LogMessage.ownOrderId?]
    · cases found
      simp [LogMessage.ownOrderId?]
    · contradiction
  | _ => contradiction

theorem Task.Runs.createOrder?_eq {task : Task} {call : CreateOrder} (runs : task.Runs call) :
    task.createOrder? = some call := by
  cases runs <;> rfl

namespace LoggedState

/-- What the log relies on: the contexts hold the latest orders, and each call is about its own. -/
structure Bound (s : LoggedState) : Prop where
  contexts : ∀ request, (s.contexts request).orderId = (s.latest request).map (·.orderId)
  tasks : ∀ i handling, s.handling i = some handling → ∃ task call,
    s.platform.tasks[i]? = some task ∧ task.Runs call ∧ call.About handling.orderData.orderId
  owners : ∀ k i, s.owners k = some i → i < s.platform.tasks.length
  latest : ∀ i handling, s.handling i = some handling → (s.latest handling.request).isSome

section
variable {d : Deployment} {s t : LoggedState} {l : LoggedLabel} {i : Nat} {handling : Handling}

theorem Bound.about (bound : s.Bound) (handled : s.handling i = some handling) {call : CreateOrder}
    (found : (s.platform.tasks[i]?).bind Task.createOrder? = some call) :
    call.About handling.orderData.orderId := by
  obtain ⟨task, own, here, runs, about⟩ := bound.tasks i handling handled
  rw [here, Option.bind_some, runs.createOrder?_eq] at found
  exact Option.some.inj found ▸ about

theorem shipping?_cases {task : Task} {orderData : NormalizedCreateOrderRequest}
    (h : task.shipping? = some orderData) : ∃ persistedOrder adapter,
      task.createOrder? = some (.createShipment orderData persistedOrder adapter) := by
  unfold Task.shipping? at h
  split at h
  next found =>
    split at h
    · cases h
      exact ⟨_, _, found⟩
    · contradiction
  next => contradiction

theorem Bound.emitted (bound : s.Bound) {message : LogMessage}
    (logged : (i, message) ∈ s.emitted d l) : i < s.platform.tasks.length ∧
      ∀ handling, s.handling i = some handling →
        ∀ orderId ∈ message.ownOrderId?, orderId = handling.orderData.orderId := by
  unfold LoggedState.emitted at logged
  split at logged
  next j answer =>
    split at logged
    next call found =>
      split at logged
      next w' call' stepped =>
        obtain ⟨_, among, same⟩ := List.mem_map.mp logged
        cases same
        obtain ⟨task, here, -⟩ := Option.bind_eq_some_iff.mp found
        refine ⟨(List.getElem?_eq_some_iff.mp here).1, fun handling handled => ?_⟩
        have about := bound.about handled found
        exact about.messages (OrderService.step_single about stepped).2 among
      next => contradiction
    next => contradiction
  next => contradiction
  next l =>
    split at logged
    next call messages found =>
      split at logged
      next owned =>
        obtain ⟨_, among, same⟩ := List.mem_map.mp logged
        cases same
        refine ⟨bound.owners _ _ owned, fun _ _ orderId named => ?_⟩
        rw [ClientsState.messages_unnamed found _ among] at named
        contradiction
      next => contradiction
    next => contradiction
  next k _ =>
    split at logged
    next owned settled =>
      split at logged
      next orderData found =>
        cases List.mem_singleton.mp logged
        refine ⟨bound.owners _ _ owned, fun handling handled orderId named => ?_⟩
        obtain ⟨task, here, shipping⟩ := Option.bind_eq_some_iff.mp found
        obtain ⟨persistedOrder, adapter, at'⟩ := shipping?_cases shipping
        have about := bound.about handled (by rw [here, Option.bind_some, at'])
        exact Option.some.inj named ▸ about.request orderData rfl
      next => contradiction
    next => contradiction

structure Extends (s t : LoggedState) : Prop where
  length : s.platform.tasks.length ≤ t.platform.tasks.length
  handling : ∀ i < s.platform.tasks.length, t.handling i = s.handling i
  log : t.log = s.log

theorem Bound.settle (bound : s.Bound) {answer : Answer} {platform : State}
    (stepped : State.next d.env s.platform (.settle i answer) = some platform) :
    { s with platform }.Bound ∧ s.Extends { s with platform } := by
  obtain ⟨task, w', task', here, served, rfl⟩ := State.next_settle stepped
  refine ⟨⟨bound.contexts, fun j handling handled => ?_, fun k j owned => ?_, bound.latest⟩, ?_,
    fun _ _ => rfl, rfl⟩
  · obtain ⟨mine, call, found, runs, about⟩ := bound.tasks j handling handled
    by_cases same : j = i
    · subst same
      cases here.symm.trans found
      obtain ⟨call', runs', moved⟩ := runs.step served
      refine ⟨task', call', ?_, runs', (OrderService.step_single about moved).2⟩
      exact getElem?_set_of_some found
    · refine ⟨mine, call, ?_, runs, about⟩
      rw [← found]
      exact List.getElem?_set_ne fun eq => same eq.symm
  · rw [List.length_set]
    exact bound.owners k j owned
  · rw [List.length_set]

theorem Bound.dispatch (bound : s.Bound) : (s.dispatch d i).Bound ∧ s.Extends (s.dispatch d i) := by
  unfold LoggedState.dispatch
  split
  next found handled =>
    obtain ⟨task, here, -⟩ := Option.bind_eq_some_iff.mp found
    refine ⟨⟨bound.contexts, bound.tasks, fun k j owned => ?_, bound.latest⟩, Nat.le_refl _,
      fun _ _ => rfl, rfl⟩
    dsimp only at owned
    split at owned
    · cases owned
      exact (List.getElem?_eq_some_iff.mp here).1
    · exact bound.owners k j owned
  next => exact ⟨bound, Nat.le_refl _, fun _ _ => rfl, rfl⟩

theorem begun_of_next {l : Label} {a b : State} (begins : a.begins? l = some handling)
    (stepped : State.next d.env a l = some b) : ∃ task, b.tasks[a.tasks.length]? = some task ∧
      task.Runs (.findOne handling.orderData) := by
  unfold State.begins? at begins
  split at begins
  next orderData =>
    cases begins
    cases stepped
    exact ⟨_, List.getElem?_concat_length, .single⟩
  next bulk =>
    split at begins
    next orders currentIndex found =>
      obtain ⟨orderItem, item, same⟩ := Option.map_eq_some_iff.mp begins
      cases same
      have moved : (CourierPlatform.platform d.env).next a (.startItem bulk) = some b := stepped
      cases State.Moves.of_next moved with
      | itemStarted awaiting item' =>
        cases found.symm.trans awaiting
        cases item.symm.trans item'
        refine ⟨.bulkItem bulk currentIndex (OrderService.createOrder orderItem), ?_, .item⟩
        rw [← List.length_set]
        exact List.getElem?_concat_length
    next => contradiction
  next => contradiction

theorem Bound.proceed {l : Label} {platform : State} (bound : s.Bound)
    (off : ∀ j a, l ≠ .settle j a) (alive : ∀ dead, l ≠ .crash dead)
    (stepped : State.next d.env s.platform l = some platform) :
    (s.proceed l platform).Bound ∧ s.Extends (s.proceed l platform) := by
  have moved : (CourierPlatform.platform d.env).next s.platform l = some platform := stepped
  have moves := State.Moves.of_next moved
  have length := State.length_le_of_next moves
  have stays : ∀ j handling, s.handling j = some handling → ∃ task call,
      platform.tasks[j]? = some task ∧ task.Runs call ∧ call.About handling.orderData.orderId := by
    intro j handling handled
    obtain ⟨task, call, here, runs, about⟩ := bound.tasks j handling handled
    have notBulk : ∀ bulk, task ≠ .createBulkOrders bulk := by
      rintro bulk rfl
      cases runs
    rcases moves.keeps_task here notBulk (off j) with kept | ⟨⟨dead, died⟩, -⟩
    · exact ⟨task, call, kept, runs, about⟩
    · exact (alive dead died).elim
  have owners : ∀ k j, s.owners k = some j → j < platform.tasks.length :=
    fun k j owned => Nat.lt_of_lt_of_le (bound.owners k j owned) length
  unfold LoggedState.proceed
  split
  next handling begins =>
    obtain ⟨task, here, runs⟩ := begun_of_next begins stepped
    refine ⟨⟨fun request => ?_, fun j handling' handled => ?_, owners, fun j handling' handled => ?_⟩,
      length, fun j old => ?_, rfl⟩
    · unfold LoggedState.begin
      dsimp only
      split
      · rfl
      · exact bound.contexts request
    · unfold LoggedState.begin at handled
      dsimp only at handled
      split at handled
      next new =>
        cases handled
        refine ⟨task, _, new ▸ here, runs, fun request same => ?_, fun _ none => ?_⟩
        · exact congrArg _ (Option.some.inj same).symm
        · contradiction
      next => exact stays j handling' handled
    · unfold LoggedState.begin at handled ⊢
      dsimp only at handled ⊢
      split
      · rfl
      next other =>
        split at handled
        · cases handled
          contradiction
        · exact bound.latest j handling' handled
    · unfold LoggedState.begin
      exact if_neg (Nat.ne_of_lt old)
  next => exact ⟨⟨bound.contexts, stays, owners, bound.latest⟩, length, fun _ _ => rfl, rfl⟩

theorem Bound.move (bound : s.Bound) (moved : s.move d l = some t) : t.Bound ∧ s.Extends t := by
  unfold LoggedState.move at moved
  split at moved
  next => contradiction
  next i answer =>
    split at moved
    next => contradiction
    next =>
      obtain ⟨platform, stepped, rfl⟩ := Option.map_eq_some_iff.mp moved
      obtain ⟨settled, first⟩ := bound.settle stepped
      obtain ⟨dispatched, second⟩ := settled.dispatch (d := d) (i := i)
      refine ⟨dispatched, Nat.le_trans first.length second.length, fun j old => ?_, ?_⟩
      · exact (second.handling j (Nat.lt_of_lt_of_le old first.length)).trans (first.handling j old)
      · exact second.log.trans first.log
  next l dies settles =>
    obtain ⟨platform, stepped, rfl⟩ := Option.map_eq_some_iff.mp moved
    apply bound.proceed _ _ stepped
    · rintro j a rfl
      exact settles j a rfl
    · rintro dead rfl
      exact dies dead rfl
  next l =>
    obtain ⟨clients, stepped, rfl⟩ := Option.map_eq_some_iff.mp moved
    exact ⟨⟨bound.contexts, bound.tasks, bound.owners, bound.latest⟩, Nat.le_refl _,
      fun _ _ => rfl, rfl⟩
  next k random =>
    simp only [bind, Option.bind_eq_some_iff] at moved
    obtain ⟨i, _, orderData, _, manifest, _, platform, stepped, same⟩ := moved
    cases same
    exact bound.settle stepped

theorem Bound.init (w : World) (cache : Option String) (calls : List (Nat × RequestCall))
    (requestIds : Nat → String) : (LoggedState.init w cache calls requestIds).Bound where
  contexts _ := rfl
  tasks _ _ handled := by contradiction
  owners _ _ owned := by contradiction
  latest _ _ handled := by contradiction

theorem Bound.records (bound : s.Bound) (turn : s.inTurn d l = true) {record : LogRecord}
    (logged : record ∈ s.records d l) : record.task < s.platform.tasks.length ∧
      ∀ handling, s.handling record.task = some handling →
        ∀ orderId, record.info.orderId = some orderId → orderId = handling.orderData.orderId := by
  obtain ⟨⟨i, message⟩, among, rfl⟩ := List.mem_map.mp logged
  obtain ⟨inside, named⟩ := bound.emitted among
  refine ⟨inside, fun handling (handled : s.handling i = some handling) orderId here => ?_⟩
  have latest := List.all_eq_true.mp turn _ among
  apply orderId_of_contextFormat (named handling handled) _ here
  unfold LoggedState.isLatest at latest
  simp only [handled, Bool.or_eq_true, decide_eq_true_eq] at latest
  unfold LoggedState.contextOf
  simp only [handled, bound.contexts]
  exact latest

structure Recorded (s : LoggedState) : Prop where
  bound : s.Bound
  begun : ∀ record ∈ s.log, record.task < s.platform.tasks.length
  attributed : s.Attributed

theorem Recorded.next (inv : s.Recorded) (turn : s.inTurn d l = true) (moved : s.next d l = some t) :
    t.Recorded := by
  obtain ⟨u, move, rfl⟩ := Option.map_eq_some_iff.mp moved
  obtain ⟨bound, after⟩ := inv.bound.move move
  have right : ∀ record ∈ s.records d l ++ u.log, record.task < s.platform.tasks.length ∧
      ∀ handling, s.handling record.task = some handling →
        ∀ orderId, record.info.orderId = some orderId → orderId = handling.orderData.orderId := by
    intro record logged
    rcases List.mem_append.mp logged with new | old
    · exact inv.bound.records turn new
    · rw [after.log] at old
      exact ⟨inv.begun record old, inv.attributed record old⟩
  refine ⟨⟨bound.contexts, bound.tasks, bound.owners, bound.latest⟩, fun record logged => ?_,
    fun record logged => ?_⟩
  · exact Nat.lt_of_lt_of_le (right record logged).1 after.length
  · intro handling handled
    obtain ⟨inside, own⟩ := right record logged
    exact own handling ((after.handling _ inside).symm.trans handled)

/-- The condition leaves out no more than the defect: what is logged out of turn carries the id of the
latest order. -/
theorem Bound.misattributed (bound : s.Bound)
    (texts : ∀ request order, s.latest request = some order → order.orderId ≠ "")
    (late : s.inTurn d l = false) (moved : s.next d l = some t) : ¬ t.Attributed := by
  intro attributed
  obtain ⟨u, move, rfl⟩ := Option.map_eq_some_iff.mp moved
  obtain ⟨entry, among, out⟩ := List.all_eq_false.mp late
  obtain ⟨i, message⟩ := entry
  rw [Bool.not_eq_true, Bool.or_eq_false_iff] at out
  obtain ⟨unnamed, other⟩ := out
  unfold LoggedState.isLatest at other
  split at other
  next handling handled =>
    obtain ⟨latest, last⟩ := Option.isSome_iff_exists.mp (bound.latest i handling handled)
    have differs : latest.orderId ≠ handling.orderData.orderId := by simpa [last] using other
    have context : (s.contextOf i).orderId = some latest.orderId := by
      unfold LoggedState.contextOf
      simp only [handled, bound.contexts, last, Option.map_some]
    have here := orderId_of_unnamed unnamed context (texts _ _ last)
    have after := (bound.move move).2
    have inside := (bound.emitted among).1
    have logged : ⟨i, message, contextFormat (s.contextOf i) (message.info (s.contextOf i))⟩ ∈
        s.records d l := List.mem_map.mpr ⟨_, among, rfl⟩
    exact differs (attributed _ (List.mem_append_left _ logged) handling
      ((after.handling i inside).trans handled) _ here)
  next => contradiction

end

/-- In every run whose steps log in turn, however the items of the batches interleave, a record that
carries an `orderId` carries that of its item. -/
theorem records_attributed (d : Deployment) (w : World) (cache : Option String)
    (calls : List (Nat × RequestCall)) (requestIds : Nat → String) {s : LoggedState}
    (reach : (logging d).Reaches (fun s l => s.inTurn d l = true) (init w cache calls requestIds) s) :
    s.Attributed := by
  apply Recorded.attributed
  apply reach.invariant Recorded
  · exact ⟨.init w cache calls requestIds, fun _ logged => by contradiction,
      fun _ logged => by contradiction⟩
  · intro a l b inv turn stepped
    exact inv.next turn stepped

def singleProcess (bulkConcurrencyLimit : Int) : Deployment where
  env := { defaultEnv .postgres .named with bulkConcurrencyLimit }
  client := { retryAttempts := 3, retryDelayMs := 1000 }
  process _ := 0

def twoParcels : List LoggedLabel :=
  [.platform (.start (.createBulkOrders [parcel "A-1" "mock", parcel "A-2" "mock"] "B-1")),
    .platform (.settle 0 .ok), .platform (.settle 0 .ok)]

def bookedBy (task : Nat) (orderId : String) : List LoggedLabel :=
  [.platform (.settle task .ok), .platform (.settle task .ok),
    .platform (.settle task (.booked (bookingReply (parcel orderId "mock") "MCK-1"))),
    .platform (.settle task .ok)]

theorem records_attributed_one_by_one : ∃ s : LoggedState,
    (logging (singleProcess 1)).Reaches (fun s l => s.inTurn (singleProcess 1) l = true)
      (init .empty none [] fun _ => "R-1") s ∧ s.log.length = 4 ∧ s.Attributed := by
  obtain ⟨s, reach, length⟩ := Machine.Reaches.of_run_any (logging (singleProcess 1))
    (fun s l => s.inTurn (singleProcess 1) l = true) (init .empty none [] fun _ => "R-1")
    (twoParcels ++ [.platform (.startItem 0)] ++ bookedBy 1 "A-1" ++
      [.platform (.startItem 0)] ++ bookedBy 2 "A-2")
    (fun s => s.log.length = 4) (by decide)
  exact ⟨s, reach, of_decide_eq_true length, records_attributed _ _ _ _ _ reach⟩

/-- The second item begins before the first one is done, and the first one's last record carries the
`orderId` of the second. -/
theorem record_of_other_item :
    ¬ ∀ d w cache calls requestIds s,
      (logging d).Reaches (fun _ _ => True) (init w cache calls requestIds) s → s.Attributed := by
  intro claim
  obtain ⟨s, reach, test⟩ := Machine.Reaches.of_run_any (logging (singleProcess 10))
    (fun _ _ => True) (init .empty none [] fun _ => "R-1")
    (twoParcels ++ [.platform (.startItem 0), .platform (.startItem 0)] ++ bookedBy 1 "A-1")
    (fun s => (s.log.head?.map fun record => (record.task, record.info.orderId)) =
        some (1, some "A-2") &&
      ((s.handling 1).map fun handling => handling.orderData.orderId) = some "A-1") (by decide)
  simp only [Bool.and_eq_true, decide_eq_true_eq, Option.map_eq_some_iff, Prod.mk.injEq] at test
  obtain ⟨⟨record, last, task, other⟩, handling, handled, own⟩ := test
  have same := claim _ _ _ _ _ s reach record (List.mem_of_head? last) handling
    (task ▸ handled) _ other
  rw [own] at same
  exact absurd same (by decide)

end LoggedState
end CourierPlatform
