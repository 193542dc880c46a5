import CourierPlatform.Proofs.Recovery

/-! Calls in flight that serve one order each. Each comes to the outcome of its request, whatever
the others do in between, be they items of a batch or requests one after another. -/
namespace CourierPlatform
open Library OrderService

def Task.dispatching? : Task → Option NormalizedCreateOrderRequest
  | createOrder (.createShipment orderData _ _) => some orderData
  | bulkItem _ _ (.createShipment orderData _ _) => some orderData
  | _ => none

def Task.bulkInserts : Task → Bool
  | createBulkOrders (.prePersistAll _ _) => true
  | _ => false

/-- The couriers answer as given, and no other request arrives, no process dies and no database
operation fails but the bulk insert. -/
def State.proceeds (outcomes : Outcomes) (s : State) : Label → Bool
  | .start _ => false
  | .settle i (.dbError _) => s.tasks[i]?.any Task.bulkInserts
  | .settle i a => (s.tasks[i]?.bind Task.dispatching?).all fun orderData =>
      a.booking?.all (· = outcomes orderData)
  | .crash _ => false
  | _ => true

def State.oneByOne (outcomes : Outcomes) (orders : List NormalizedCreateOrderRequest) (s : State) :
    Label → Bool
  | .start (.createOrder orderData) => s.idle && orders[s.tasks.length]? = some orderData
  | l => s.proceeds outcomes l

def Task.call? : Task → Option CreateOrder
  | createOrder call => some call
  | bulkItem _ _ call => some call
  | _ => none

/-- The call that serves a request, with its number; a call that has not begun is as it will
begin. -/
def State.callAt (s : State) (i : Nat) (orderData : NormalizedCreateOrderRequest) : CreateOrder :=
  (s.tasks[i]?.bind Task.call?).getD (createOrder orderData)

/-- From call `offset` on, the calls in flight serve the orders of the list, and what each comes
to is what its request alone comes to. -/
structure State.Toward (env : Env) (outcomes : Outcomes) (w : World)
    (orders : List NormalizedCreateOrderRequest) (offset : Nat) (s : State) : Prop where
  calls : ∀ (k : Nat) (task : Task), s.tasks[k + offset]? = some task →
    ∃ orderData call, orders[k]? = some orderData ∧ task.Runs call ∧ call.About orderData.orderId
  comes : ∀ (k : Nat) (orderData : NormalizedCreateOrderRequest), orders[k]? = some orderData →
    (s.world.single orderData.orderId (s.callAt (k + offset) orderData)).complete env outcomes =
      (w.single orderData.orderId (createOrder orderData)).complete env outcomes
  others : ∀ x, x ∉ orders.map (·.orderId) →
    s.world.findOne x = w.findOne x ∧ s.world.eventsOf x = w.eventsOf x

section
variable {env : Env} {outcomes : Outcomes} {w w' : World} {s t : State} {l : Label} {a : Answer}
  {orders : List NormalizedCreateOrderRequest} {offset k : Nat} {task task' : Task}
  {call : CreateOrder} {orderData : NormalizedCreateOrderRequest}

theorem Task.Runs.call? (runs : task.Runs call) : task.call? = some call := by cases runs <;> rfl

theorem State.callAt_of_runs (found : s.tasks[k]? = some task) (runs : task.Runs call) :
    s.callAt k orderData = call := by
  rw [callAt, found, Option.bind_some, runs.call?, Option.getD_some]

theorem ne_of_distinct (distinct : (orders.map (·.orderId)).Nodup) {j : Nat}
    {other : NormalizedCreateOrderRequest} (here : orders[k]? = some orderData)
    (there : orders[j]? = some other) (apart : j ≠ k) : other.orderId ≠ orderData.orderId := by
  intro same
  refine apart ((List.getElem?_inj ?_ distinct).mp ?_)
  · rw [List.length_map]
    exact (List.getElem?_eq_some_iff.mp there).1
  · rw [List.getElem?_map, List.getElem?_map, here, there, Option.map_some, Option.map_some, same]

theorem Task.Runs.untouched {x y : String} (runs : task.Runs call) (about : call.About x)
    (other : y ≠ x) : y ∉ task.touches := by
  intro mem
  have touched : y ∈ call.request?.toList.map (·.orderId) ∨
      y ∈ call.instance?.toList.map Order.orderId := by
    cases runs <;> exact List.mem_append.mp mem
  rcases touched with named | carried
  · obtain ⟨request, asked, rfl⟩ := List.mem_map.mp named
    exact other (about.request request (Option.mem_toList.mp asked))
  · obtain ⟨order, loaded, rfl⟩ := List.mem_map.mp carried
    exact other (about.carried order (Option.mem_toList.mp loaded))

theorem State.proceeds_settles (proceeds : s.proceeds outcomes (.settle k a) = true)
    (found : s.tasks[k]? = some task) (runs : task.Runs call) {x : String} {after : SingleOrder}
    (stepped : (s.world.single x call).step env s.world.now a = some after) :
    a = call.settles outcomes := by
  refine SingleOrder.settles_of_step stepped ?_ ?_
  · rintro error rfl
    cases runs <;> simp [State.proceeds, found, Task.bulkInserts] at proceeds
  · rintro orderData persisted adapter dispatching booking answered
    have asks : task.dispatching? = some orderData := by
      change call = _ at dispatching
      cases runs <;> rw [dispatching] <;> rfl
    cases a with
    | booked reply => simpa [State.proceeds, found, asks, answered] using proceeds
    | refused error => simpa [State.proceeds, found, asks, answered] using proceeds
    | _ => cases answered

theorem State.Toward.settle (h : s.Toward env outcomes w orders offset)
    (distinct : (orders.map (·.orderId)).Nodup)
    (proceeds : s.proceeds outcomes (.settle (k + offset) a) = true)
    (found : s.tasks[k + offset]? = some task)
    (stepped : task.step env s.world a = some (w', task')) :
    State.Toward env outcomes w orders offset ⟨w', s.tasks.set (k + offset) task'⟩ := by
  obtain ⟨orderData, call, item, runs, about⟩ := h.calls k task found
  obtain ⟨call', runs', moved⟩ := runs.step stepped
  obtain ⟨single, about'⟩ := OrderService.step_single about moved
  have bound := (List.getElem?_eq_some_iff.mp found).1
  have moves := Task.Moves.of_step stepped
  have off {x : String} (other : x ≠ orderData.orderId) :
      w'.findOne x = s.world.findOne x ∧ w'.eventsOf x = s.world.eventsOf x :=
    ⟨moves.findOne (runs.untouched about other), moves.eventsOf (runs.untouched about other)⟩
  refine ⟨fun j other there => ?_, fun j other there => ?_, fun x outside => ?_⟩
  · rcases getElem?_set_cases there with ⟨-, before⟩ | ⟨same, rfl⟩
    · exact h.calls j other before
    · obtain rfl : j = k := by omega
      exact ⟨orderData, call', item, runs', about'⟩
  · by_cases same : j = k
    · subst same
      cases item.symm.trans there
      rw [← h.comes j orderData item, State.callAt_of_runs found runs,
        State.callAt_of_runs (List.getElem?_set_self bound) runs']
      rw [proceeds_settles proceeds found runs single] at single
      exact SingleOrder.complete_step single
    · have apart := ne_of_distinct distinct item there same
      have unmoved : State.callAt ⟨w', s.tasks.set (k + offset) task'⟩ (j + offset) other =
          s.callAt (j + offset) other := by
        rw [callAt, callAt, List.getElem?_set_ne (by omega)]
      rw [unmoved, ← h.comes j other there, World.single, (off apart).1, (off apart).2, World.single]
  · have outer : x ≠ orderData.orderId := by
      rintro rfl
      exact outside (List.mem_map_of_mem (List.mem_of_getElem? item))
    rw [(off outer).1, (off outer).2]
    exact h.others x outside

theorem State.Toward.begin (h : s.Toward env outcomes w orders offset)
    (next : s.tasks.length = k + offset) (item : orders[k]? = some orderData)
    (runs : task.Runs (createOrder orderData)) {tasks : List Task}
    (same : ∀ i, offset ≤ i → tasks[i]? = s.tasks[i]?) (length : tasks.length = s.tasks.length) :
    State.Toward env outcomes w orders offset ⟨s.world, tasks ++ [task]⟩ := by
  refine ⟨fun j other there => ?_, fun j other there => ?_, h.others⟩
  · rcases getElem?_concat_cases there with before | ⟨last, rfl⟩
    · rw [same _ (Nat.le_add_left ..)] at before
      exact h.calls j other before
    · obtain rfl : j = k := by omega
      refine ⟨orderData, _, item, runs, fun _ mem => ?_, fun _ mem => ?_⟩
      · cases mem
        rfl
      · cases mem
  · rw [← h.comes j other there]
    congr 2
    unfold callAt
    rcases Nat.lt_trichotomy (j + offset) s.tasks.length with inside | here | beyond
    · rw [List.getElem?_append_left (length ▸ inside), same _ (Nat.le_add_left ..)]
    · obtain rfl : j = k := by omega
      cases item.symm.trans there
      have absent : s.tasks[j + offset]? = none := List.getElem?_eq_none (Nat.le_of_eq next)
      have new : (tasks ++ [task])[j + offset]? = some task := by
        rw [← next, ← length]
        exact List.getElem?_concat_length
      rw [absent, new, Option.bind_some, runs.call?]
      rfl
    · rw [List.getElem?_eq_none (by simp; omega), List.getElem?_eq_none (by omega)]

theorem State.Toward.congr (h : s.Toward env outcomes w orders offset)
    (rows : ∀ x, t.world.findOne x = s.world.findOne x)
    (events : ∀ x, t.world.eventsOf x = s.world.eventsOf x)
    (tasks : ∀ i, offset ≤ i → t.tasks[i]? = s.tasks[i]?) :
    t.Toward env outcomes w orders offset := by
  refine ⟨fun k task found => ?_, fun k orderData item => ?_, fun x outside => ?_⟩
  · rw [tasks _ (Nat.le_add_left ..)] at found
    exact h.calls k task found
  · rw [← h.comes k orderData item, World.single, rows, events, World.single, State.callAt,
      tasks _ (Nat.le_add_left ..), State.callAt]
  · rw [rows, events]
    exact h.others x outside

theorem filter_of_distinct (distinct : (orders.map (·.orderId)).Nodup)
    (item : orders[k]? = some orderData) :
    orders.filter (·.orderId = orderData.orderId) = [orderData] := by
  induction orders generalizing k with
  | nil => contradiction
  | cons first rest ih =>
    rw [List.map_cons, List.nodup_cons] at distinct
    cases k with
    | zero =>
      cases Option.some.inj item
      have none : rest.filter (·.orderId = orderData.orderId) = [] := by
        refine List.filter_eq_nil_iff.mpr fun other mem same => ?_
        exact distinct.1 (List.mem_map.mpr ⟨other, mem, of_decide_eq_true same⟩)
      rw [List.filter_cons, if_pos (decide_eq_true rfl), none]
    | succ k =>
      have mem : orderData ∈ rest := List.mem_of_getElem? item
      have other : first.orderId ≠ orderData.orderId := fun same =>
        distinct.1 (same ▸ List.mem_map_of_mem mem)
      rw [List.filter_cons_of_neg (by simpa using other)]
      exact ih distinct.2 item

theorem SingleOrder.complete_inserted {row : Option Order} {events : List TrackingEvent}
    {now : Int} :
    complete env outcomes
        ⟨.findOne orderData, row.or (some (pendingOrder orderData now)), events⟩ =
      complete env outcomes ⟨.findOne orderData, row, events⟩ := by
  cases row with
  | some row => rfl
  | none =>
    have persisted : prePersisted orderData (some (pendingOrder orderData now).undated) =
        pendingOrder orderData 0 := prePersisted_interrupted (.inr ⟨now, rfl⟩)
    rw [complete_findOne, complete_findOne, Option.none_or, Option.map_some, outcome, outcome,
      persisted]
    rfl

theorem State.Toward.next_oneByOne (h : s.Toward env outcomes w orders 0)
    (distinct : (orders.map (·.orderId)).Nodup) (guard : s.oneByOne outcomes orders l = true)
    (moved : (platform env).next s l = some t) : t.Toward env outcomes w orders 0 := by
  have noBatch {i : Nat} {bulk : BulkOrder}
      (found : s.tasks[i]? = some (.createBulkOrders bulk)) : False := by
    obtain ⟨orderData, call, -, runs, -⟩ := h.calls i _ found
    cases runs
  cases State.Moves.of_next moved with
  | started request =>
    cases request with
    | createOrder orderData =>
      obtain ⟨-, item⟩ := Bool.and_eq_true_iff.mp guard
      exact h.begin rfl (of_decide_eq_true item) .single (fun _ _ => rfl) rfl
    | _ => contradiction
  | settled awaiting step =>
    obtain ⟨task, w', task', found, stepped, result⟩ := State.next_settle moved
    rw [result]
    exact h.settle distinct guard found stepped
  | itemStarted awaiting item => exact (noBatch awaiting).elim
  | collected awaiting all settled => exact (noBatch awaiting).elim
  | died dead => contradiction
  | ticked ms => exact h.congr (fun _ => rfl) (fun _ => rfl) fun _ _ => rfl

theorem State.Toward.comesTo (h : s.Toward env outcomes w orders offset)
    (item : orders[k]? = some orderData)
    (settled : (s.callAt (k + offset) orderData).settled = true) :
    (s.world.single orderData.orderId (s.callAt (k + offset) orderData)).undated =
      (w.single orderData.orderId (createOrder orderData)).complete env outcomes := by
  rw [← h.comes k orderData item]
  exact (SingleOrder.complete_of_settled settled).symm

end
end CourierPlatform
