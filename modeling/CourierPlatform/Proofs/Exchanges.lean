import CourierPlatform.Proofs.Responses

/-! Which response belongs to which call. An exchange keeps its response; a call answers one exchange,
which is told how the call has ended. -/
namespace CourierPlatform
open Js Library

def Awaited.isCall : Awaited → Bool
  | findOrder _ => false
  | authenticate => false
  | _ => true

def Task.isRequested : Task → Bool
  | bulkItem .. => false
  | reconcile _ => false
  | crashed => false
  | _ => true

structure Exchange.Keeps (exchange exchange' : Exchange) : Prop where
  same : exchange' = { exchange with response := exchange'.response }
  answered : ∀ response ∈ exchange.response, exchange'.response = some response

namespace Server

def Begun (s : Server) : Awaited → Prop
  | .task i => i < s.platform.tasks.length
  | .registration i => i < s.accounts.registrations.calls.length
  | .login i => i < s.accounts.logins.length
  | _ => True

/-- The call has ended like this, or its process has died since. -/
def Ended (s : Server) (awaited : Awaited) (outcome : Except Thrown (Nat × ResponseData)) : Prop :=
  s.outcome? awaited = some outcome ∨
    ∃ i, awaited = .task i ∧ s.platform.tasks[i]? = some .crashed

structure Correlated (config : ServerConfig) (s : Server) : Prop where
  begun : ∀ exchange ∈ s.exchanges, ∀ awaited ∈ exchange.awaited, s.Begun awaited
  distinct : ∀ (k k' : Nat) (exchange exchange' : Exchange), s.exchanges[k]? = some exchange →
    s.exchanges[k']? = some exchange' → ∀ awaited ∈ exchange.awaited,
      awaited ∈ exchange'.awaited → awaited.isCall = true → k = k'
  owned : ∀ (i : Nat) (task : Task), s.platform.tasks[i]? = some task → task.isRequested = true →
    ∃ exchange ∈ s.exchanges, exchange.awaited = some (.task i)
  outcome : ∀ exchange ∈ s.exchanges, ∀ response ∈ exchange.response,
    ∀ awaited ∈ exchange.awaited, awaited.isCall = true →
      ∃ sender outcome, response = reply config sender exchange.requestId outcome ∧
        s.Ended awaited outcome

end Server

variable {config : ServerConfig} {s t : Server} {l : ServerLabel}

/-! ## Calls -/

theorem Task.settled_of_outcome? {task : Task} {outcome : Except Thrown (Nat × ResponseData)}
    (h : task.outcome? = some outcome) : task.settled = true := by
  cases task with
  | createOrder call => cases call <;> first | rfl | contradiction
  | createBulkOrders call => cases call <;> first | rfl | contradiction
  | trackOrder call => cases call <;> first | rfl | contradiction
  | cancelOrder call => cases call <;> first | rfl | contradiction
  | _ => contradiction

theorem RegisterStage.settled_of_outcome? {stage : RegisterStage}
    {outcome : Except Thrown (Nat × ResponseData)} (h : stage.outcome? = some outcome) :
    stage.settled = true := by
  cases stage <;> first | rfl | contradiction

theorem LoginStage.settled_of_outcome? {stage : LoginStage}
    {outcome : Except Thrown (Nat × ResponseData)} (h : stage.outcome? = some outcome) :
    stage.settled = true := by
  cases stage <;> first | rfl | contradiction

theorem State.Moves.keeps_settled {env : Env} {s t : State} {l : Label} {i : Nat} {task : Task}
    (moves : State.Moves env s l t) (here : s.tasks[i]? = some task) (settled : task.settled = true) :
    t.tasks[i]? = some task ∨ t.tasks[i]? = some .crashed := by
  have own : (∀ a, l ≠ .settle i a) ∧ l ≠ .startItem i ∧ l ≠ .collect i := by
    refine ⟨?_, ?_, ?_⟩
    · rintro a rfl
      cases moves with
      | settled awaiting step =>
        cases here.symm.trans awaiting
        rw [step.unsettled] at settled
        contradiction
    · rintro rfl
      cases moves with
      | itemStarted awaiting item =>
        cases here.symm.trans awaiting
        contradiction
    · rintro rfl
      cases moves with
      | collected awaiting all results =>
        cases here.symm.trans awaiting
        contradiction
  rcases moves.stays here own.1 own.2.1 own.2.2 with same | ⟨dead, -, -, -, gone⟩
  · exact .inl same
  · exact .inr gone

theorem State.Moves.isRequested {env : Env} {s t : State} {l : Label} {i : Nat} {task : Task}
    (moves : State.Moves env s l t) (isOwn : l.isOwn = true) (found : t.tasks[i]? = some task)
    (requested : task.isRequested = true) :
    ∃ before, s.tasks[i]? = some before ∧ before.isRequested = true := by
  cases moves.came found with
  | kept before still => exact ⟨task, before, requested⟩
  | started request label last =>
    subst label
    cases request <;> contradiction
  | @moved a before task label awaiting step =>
    refine ⟨before, awaiting, ?_⟩
    cases step <;> exact requested
  | item awaiting label item last => contradiction
  | wentOn awaiting label item => exact ⟨_, awaiting, rfl⟩
  | collected awaiting => exact ⟨_, awaiting, rfl⟩
  | died before => contradiction

namespace Server

structure Ends (s t : Server) : Prop where
  begun : ∀ awaited, s.Begun awaited → t.Begun awaited
  ended : ∀ awaited outcome, s.Ended awaited outcome → t.Ended awaited outcome

theorem Ends.of_platform {platform : State} {l : Label}
    (moves : State.Moves config.env s.platform l platform) (same : t.accounts = s.accounts)
    (moved : t.platform = platform) : s.Ends t := by
  refine ⟨fun awaited begun => ?_, fun awaited outcome ended => ?_⟩
  · cases awaited with
    | task i => exact Nat.lt_of_lt_of_le begun (moved ▸ State.length_le_of_next moves)
    | registration i => rwa [Begun, same]
    | login i => rwa [Begun, same]
    | _ => trivial
  · rcases ended with ended | ⟨i, rfl, died⟩
    · cases awaited with
      | task i =>
        obtain ⟨task, here, result⟩ := Option.bind_eq_some_iff.mp ended
        rcases moves.keeps_settled here (Task.settled_of_outcome? result) with there | gone
        · exact .inl (by rw [outcome?, moved, there]; exact result)
        · exact .inr ⟨i, rfl, moved ▸ gone⟩
      | registration i => exact .inl (by rw [outcome?, same]; exact ended)
      | login i => exact .inl (by rw [outcome?, same]; exact ended)
      | _ => contradiction
    · rcases moves.keeps_settled died rfl with there | gone
      · exact .inr ⟨i, rfl, moved ▸ there⟩
      · exact .inr ⟨i, rfl, moved ▸ gone⟩

theorem Ends.of_accounts (kept : s.accounts.Keeps t.accounts) (same : t.platform = s.platform) :
    s.Ends t := by
  refine ⟨fun awaited begun => ?_, fun awaited outcome ended => ?_⟩
  · cases awaited with
    | task i => rwa [Begun, same]
    | registration i =>
      obtain ⟨call, there, -⟩ := kept.registrations i _ (List.getElem?_eq_getElem begun)
      exact (List.getElem?_eq_some_iff.mp there).1
    | login i =>
      obtain ⟨call, there, -⟩ := kept.logins i _ (List.getElem?_eq_getElem begun)
      exact (List.getElem?_eq_some_iff.mp there).1
    | _ => trivial
  · rcases ended with ended | ⟨i, rfl, died⟩
    · cases awaited with
      | task i => exact .inl (by rw [outcome?, same]; exact ended)
      | registration i =>
        obtain ⟨call, here, result⟩ := Option.bind_eq_some_iff.mp ended
        obtain ⟨call', there, -, unmoved⟩ := kept.registrations i call here
        rw [unmoved (RegisterStage.settled_of_outcome? result)] at there
        exact .inl (by rw [outcome?, there]; exact result)
      | login i =>
        obtain ⟨call, here, result⟩ := Option.bind_eq_some_iff.mp ended
        obtain ⟨call', there, -, unmoved⟩ := kept.logins i call here
        rw [unmoved (LoginStage.settled_of_outcome? result)] at there
        exact .inl (by rw [outcome?, there]; exact result)
      | _ => contradiction
    · exact .inr ⟨i, rfl, same ▸ died⟩

/-! ## Exchanges -/

inductive Turns (config : ServerConfig) (s t : Server) : Prop where
  | same (unchanged : t.exchanges = s.exchanges)
  | added {exchange : Exchange} (appended : t.exchanges = s.exchanges ++ [exchange])
      (awaits : ∀ awaited ∈ exchange.awaited, exchange.response = none ∧ t.Begun awaited ∧
        (awaited.isCall = true → ¬ s.Begun awaited))
  | sent {k : Nat} {exchange : Exchange} {awaited : Awaited}
      {outcome : Except Thrown (Nat × ResponseData)} (here : s.exchanges[k]? = some exchange)
      (awaits : exchange.awaited = some awaited) (unanswered : exchange.response = none)
      (ended : awaited.isCall = true → s.Ended awaited outcome)
      (set : t.exchanges = s.exchanges.set k
        { exchange with response := some (s.reply config exchange.requestId outcome) })

def Owns (s t : Server) : Prop :=
  ∀ (i : Nat) (task : Task), t.platform.tasks[i]? = some task → task.isRequested = true →
    (∃ before, s.platform.tasks[i]? = some before ∧ before.isRequested = true) ∨
      ∃ exchange ∈ t.exchanges, exchange.awaited = some (.task i)

theorem Owns.of_same (same : t.platform = s.platform) : s.Owns t :=
  fun _ task found requested => .inl ⟨task, same ▸ found, requested⟩

theorem Turns.answered {request : HttpRequest} {uuid : String} {exchange : Exchange}
    (of : exchange.Of request uuid) (outcome : Except Thrown (Nat × ResponseData)) :
    s.Turns config (s.answer config exchange outcome) := by
  refine .added rfl fun awaited mem => ?_
  change awaited ∈ exchange.awaited at mem
  rw [of.awaited] at mem
  contradiction

theorem Moves.turns (moves : Moves config s l t) (sound : s.accounts.Sound config.login) :
    s.Turns config t ∧ s.Ends t ∧ s.Owns t := by
  have kept := (moves.keeps_accounts sound).1
  cases moves with
  | preflight options =>
    refine ⟨.added rfl ?_, .of_accounts kept rfl, .of_same rfl⟩
    rintro awaited ⟨⟩
  | refused of err => exact ⟨.answered of _, .of_accounts kept rfl, .of_same rfl⟩
  | profile of parsed found verified => exact ⟨.answered of _, .of_accounts kept rfl, .of_same rfl⟩
  | couriers of parsed found listed => exact ⟨.answered of _, .of_accounts kept rfl, .of_same rfl⟩
  | queries of parsed found query =>
    refine ⟨.added rfl ?_, .of_accounts kept rfl, .of_same rfl⟩
    rintro _ ⟨⟩
    refine ⟨of.response, ?_⟩
    rcases query with ⟨orderId, -, rfl⟩ | ⟨-, rfl⟩ <;> exact ⟨trivial, fun call => nomatch call⟩
  | @calls request uuid batchId exchange body matched call platform of parsed found asks started =>
    have moved : (CourierPlatform.platform config.env).next s.platform (.start call) = some platform :=
      started
    cases Option.some.inj started
    refine ⟨.added rfl ?_, .of_platform (.of_next moved) rfl rfl, fun i task found requested => ?_⟩
    · rintro _ ⟨⟩
      exact ⟨of.response, by simp [Begun], fun _ => Nat.lt_irrefl _⟩
    · rcases getElem?_concat_cases found with before | ⟨rfl, -⟩
      · exact .inl ⟨task, before, requested⟩
      · exact .inr ⟨_, List.mem_append_right _ List.mem_cons_self, rfl⟩
  | registers of parsed found validated started =>
    cases Option.some.inj started
    refine ⟨.added rfl ?_, .of_accounts kept rfl, .of_same rfl⟩
    rintro _ ⟨⟩
    exact ⟨of.response, by simp [Begun], fun _ => Nat.lt_irrefl _⟩
  | logsIn of parsed found validated started =>
    cases Option.some.inj started
    refine ⟨.added rfl ?_, .of_accounts kept rfl, .of_same rfl⟩
    rintro _ ⟨⟩
    exact ⟨of.response, by simp [Begun], fun _ => Nat.lt_irrefl _⟩
  | @sent _ k exchange awaited outcome here awaits unanswered ended =>
    refine ⟨.sent here awaits unanswered (fun call => ?_) rfl, .of_accounts kept rfl, .of_same rfl⟩
    rcases ended with ⟨answer, -, ended⟩ | ⟨-, ended⟩
    · cases awaited <;> cases answer <;> contradiction
    · exact .inl ended
  | ofPlatform isOwn moved =>
    have moves := State.Moves.of_next moved
    exact ⟨.same rfl, .of_platform moves rfl rfl,
      fun i task found requested => .inl (moves.isRequested isOwn found requested)⟩
  | ofAccounts isOwn moved =>
    exact ⟨.same rfl, .of_accounts kept rfl, .of_same rfl⟩

theorem Turns.keeps {k : Nat} {exchange : Exchange} (turns : s.Turns config t)
    (here : s.exchanges[k]? = some exchange) :
    ∃ exchange', t.exchanges[k]? = some exchange' ∧ exchange.Keeps exchange' := by
  cases turns with
  | same unchanged => exact ⟨exchange, unchanged ▸ here, rfl, fun _ mem => mem⟩
  | added appended awaits =>
    have inside := (List.getElem?_eq_some_iff.mp here).1
    exact ⟨exchange, by rw [appended, List.getElem?_append_left inside, here], rfl, fun _ mem => mem⟩
  | @sent j other awaited outcome there awaits unanswered ended set =>
    by_cases own : j = k
    · subst own
      cases here.symm.trans there
      refine ⟨_, by rw [set]; exact getElem?_set_of_some here, rfl, fun response mem => ?_⟩
      rw [unanswered] at mem
      contradiction
    · exact ⟨exchange, by rw [set, List.getElem?_set_ne own, here], rfl, fun _ mem => mem⟩

theorem Turns.came {k : Nat} {exchange : Exchange} (turns : s.Turns config t)
    (found : t.exchanges[k]? = some exchange) :
    (∃ before, s.exchanges[k]? = some before ∧ exchange.awaited = before.awaited) ∨
      k = s.exchanges.length ∧ ∀ awaited ∈ exchange.awaited, exchange.response = none ∧
        t.Begun awaited ∧ (awaited.isCall = true → ¬ s.Begun awaited) := by
  cases turns with
  | same unchanged => exact .inl ⟨exchange, unchanged ▸ found, rfl⟩
  | added appended awaits =>
    rw [appended] at found
    rcases getElem?_concat_cases found with before | ⟨last, rfl⟩
    · exact .inl ⟨exchange, before, rfl⟩
    · exact .inr ⟨last, awaits⟩
  | @sent j other awaited outcome there awaits unanswered ended set =>
    rw [set] at found
    rcases getElem?_set_cases found with ⟨-, before⟩ | ⟨rfl, rfl⟩
    · exact .inl ⟨exchange, before, rfl⟩
    · exact .inl ⟨other, there, rfl⟩

theorem Correlated.init (config : ServerConfig) (w : World) : (init w).Correlated config :=
  ⟨fun _ mem => absurd mem List.not_mem_nil, fun _ _ _ _ found => (nomatch found),
    fun _ _ found => (nomatch found), fun _ mem => absurd mem List.not_mem_nil⟩

theorem Correlated.next (h : s.Correlated config) (turns : s.Turns config t) (ends : s.Ends t)
    (owns : s.Owns t) : t.Correlated config := by
  refine ⟨?_, ?_, ?_, ?_⟩
  · intro exchange mem awaited awaits
    obtain ⟨k, found⟩ := List.getElem?_of_mem mem
    rcases turns.came found with ⟨before, here, same⟩ | ⟨-, new⟩
    · exact ends.begun _ (h.begun before (List.mem_of_getElem? here) awaited (same ▸ awaits))
    · exact (new awaited awaits).2.1
  · intro k k' exchange exchange' found found' awaited mem mem' call
    rcases turns.came found with ⟨before, here, same⟩ | ⟨last, new⟩ <;>
      rcases turns.came found' with ⟨before', here', same'⟩ | ⟨last', new'⟩
    · exact h.distinct k k' before before' here here' awaited (same ▸ mem) (same' ▸ mem') call
    · exact absurd (h.begun before (List.mem_of_getElem? here) awaited (same ▸ mem))
        ((new' awaited mem').2.2 call)
    · exact absurd (h.begun before' (List.mem_of_getElem? here') awaited (same' ▸ mem'))
        ((new awaited mem).2.2 call)
    · exact last.trans last'.symm
  · intro i task found requested
    rcases owns i task found requested with ⟨before, here, requested⟩ | ⟨exchange, mem, awaits⟩
    · obtain ⟨exchange, mem, awaits⟩ := h.owned i before here requested
      obtain ⟨k, found⟩ := List.getElem?_of_mem mem
      obtain ⟨exchange', there, kept⟩ := turns.keeps found
      exact ⟨exchange', List.mem_of_getElem? there, by rw [kept.same]; exact awaits⟩
    · exact ⟨exchange, mem, awaits⟩
  · intro exchange mem response answered awaited awaits call
    have earlier (known : exchange ∈ s.exchanges) : ∃ sender outcome,
        response = reply config sender exchange.requestId outcome ∧ t.Ended awaited outcome := by
      obtain ⟨sender, outcome, same, ended⟩ :=
        h.outcome exchange known response answered awaited awaits call
      exact ⟨sender, outcome, same, ends.ended _ _ ended⟩
    cases turns with
    | same unchanged => exact earlier (unchanged ▸ mem)
    | added appended new =>
      rw [appended] at mem
      rcases List.mem_append.mp mem with known | last
      · exact earlier known
      · rw [List.mem_singleton.mp last] at answered awaits
        rw [(new awaited awaits).1] at answered
        contradiction
    | @sent k other own outcome here owed unanswered ended set =>
      rw [set] at mem
      rcases List.mem_or_eq_of_mem_set mem with known | rfl
      · exact earlier known
      · cases answered
        cases owed.symm.trans awaits
        exact ⟨s, outcome, rfl, ends.ended _ _ (ended call)⟩

end Server

theorem Exchange.Keeps.trans {first second third : Exchange} (h : first.Keeps second)
    (h' : second.Keeps third) : first.Keeps third := by
  refine ⟨?_, fun response mem => h'.answered response (h.answered response mem)⟩
  rw [h'.same, h.same]

/-- No two clients share a call, and every call of the order services that is not the worker's or an
item's is owed to one client. Once an exchange is answered it stays so, and a client that is owed a call
has been sent what that call has ended with. -/
theorem exchanges_own_calls {w : World}
    (reach : (server config).Reaches (fun _ _ => True) (.init w) s)
    (later : (server config).Reaches (fun _ _ => True) s t) :
    t.Correlated config ∧
      ∀ (k : Nat) (exchange : Exchange), s.exchanges[k]? = some exchange →
        ∃ exchange', t.exchanges[k]? = some exchange' ∧ exchange.Keeps exchange' := by
  have known : s.accounts.Sound config.login ∧ s.Correlated config := by
    refine reach.invariant (fun a => a.accounts.Sound config.login ∧ a.Correlated config)
      ⟨.init config.login, .init config w⟩ ?_
    intro a l b inv _ moved
    have moves := Server.Moves.of_next moved
    obtain ⟨turns, ends, owns⟩ := moves.turns inv.1
    exact ⟨(moves.keeps_accounts inv.1).2, inv.2.next turns ends owns⟩
  have reached : t.accounts.Sound config.login ∧ t.Correlated config ∧
      ∀ (k : Nat) (exchange : Exchange), s.exchanges[k]? = some exchange →
        ∃ exchange', t.exchanges[k]? = some exchange' ∧ exchange.Keeps exchange' := by
    refine later.invariant (fun a => a.accounts.Sound config.login ∧ a.Correlated config ∧
      ∀ (k : Nat) (exchange : Exchange), s.exchanges[k]? = some exchange →
        ∃ exchange', a.exchanges[k]? = some exchange' ∧ exchange.Keeps exchange')
      ⟨known.1, known.2, fun k exchange here => ⟨exchange, here, rfl, fun _ mem => mem⟩⟩ ?_
    intro a l b inv _ moved
    have moves := Server.Moves.of_next moved
    obtain ⟨turns, ends, owns⟩ := moves.turns inv.1
    refine ⟨(moves.keeps_accounts inv.1).2, inv.2.1.next turns ends owns, fun k exchange here => ?_⟩
    obtain ⟨middle, there, kept⟩ := inv.2.2 k exchange here
    obtain ⟨last, found, kept'⟩ := turns.keeps there
    exact ⟨last, found, kept.trans kept'⟩
  exact reached.2

theorem exchanges_own_calls_twice :
    ∃ t : Server, t.exchanges.map (fun exchange => exchange.response.map (·.statusCode)) =
      [some 201, some 409] ∧ t.Correlated productionServer := by
  obtain ⟨t, reach, test⟩ := Machine.Reaches.of_run_any (server productionServer)
    (fun _ _ => True) (.init .empty)
    [.receive bookParcel "U-1" "B-1", .receive bookParcel "U-2" "B-2", .platform (.settle 0 .ok),
      .platform (.settle 1 .ok), .platform (.settle 0 .ok), .platform (.settle 1 .ok),
      .platform (.settle 0 (.booked (bookingReply (parcel "A-1" "mock") "MCK1"))),
      .platform (.settle 0 .ok), .respond 1, .respond 0]
    (fun t => t.exchanges.map (fun exchange => exchange.response.map (·.statusCode)) =
      [some 201, some 409]) (by decide)
  exact ⟨t, of_decide_eq_true test, (exchanges_own_calls .refl reach).1⟩

end CourierPlatform
