import CourierPlatform.Proofs.Exchanges
import CourierPlatform.Proofs.Quiescence
import CourierPlatform.Spec.ServerRuns
import CourierPlatform.Spec.Serving

/-! Every client is answered, whatever else goes on, as long as the server keeps working for it. -/
namespace CourierPlatform
open Js Library

/-! ## What a call has ahead -/

/-- What is still to come of the call with its items, timelines first. -/
def State.owed (i : Nat) (s : State) : Nat × Nat :=
  ((s.tasks[i]?).elim 0 Task.polls,
    (s.tasks[i]?).elim 0 Task.awaits + UniqueTable.totalOf (Task.itemAhead i) s.tasks)

def RegisterStage.rank : RegisterStage → Nat
  | findOne => 4
  | genSalt => 3
  | hash _ => 2
  | create _ => 1
  | _ => 0

def LoginStage.rank : LoginStage → Nat
  | findOne => 2
  | compare _ => 1
  | _ => 0

def Server.owed (s : Server) : Awaited → Nat × Nat
  | .task i => s.platform.owed i
  | .registration i => (0, (s.accounts.registrations.calls[i]?).elim 0 fun call => call.stage.rank)
  | .login i => (0, (s.accounts.logins[i]?).elim 0 fun call => call.stage.rank)
  | _ => (0, 0)

def Server.due (k : Nat) (s : Server) : Nat × Nat :=
  match s.exchanges[k]? with
  | some ⟨_, _, _, some awaited, none⟩ => ((s.owed awaited).1, (s.owed awaited).2 + 1)
  | _ => (0, 0)

section
variable {env : Env} {s t : State} {l : Label} {task : Task} {i : Nat}

theorem below_of_le {a b : Nat × Nat} (first : a.1 ≤ b.1) (second : a.2 ≤ b.2) : a = b ∨ Below a b := by
  rw [Below, Prod.lex_def, Prod.ext_iff]
  omega

theorem below_of_lt {a b : Nat} (fewer : a < b) : Below (0, a) (0, b) :=
  Prod.lex_def.mpr (.inr ⟨rfl, fewer⟩)

/-- A step of a call or of its items brings it closer to its end, and no other step takes it away. -/
theorem State.Moves.owed (moves : State.Moves env s l t) (here : s.tasks[i]? = some task) :
    (s.ownStep i l = true → Below (t.owed i) (s.owed i)) ∧
      (t.owed i = s.owed i ∨ Below (t.owed i) (s.owed i)) := by
  have inside := (List.getElem?_eq_some_iff.mp here).1
  rcases State.InBatch.Aside.or_own i l with ⟨a, rfl⟩ | rfl | rfl | aside
  · cases moves with
    | @settled _ _ _ w' task' awaiting moved =>
      cases here.symm.trans awaiting
      have total := UniqueTable.totalOf_set (Task.itemAhead i) task' awaiting
      have items := moved.itemAhead (i := i)
      have falls := moved.falls
      have below : Below (State.owed i ⟨w', s.tasks.set i task'⟩) (s.owed i) := by
        refine Prod.lex_def.mpr ?_
        simp only [State.owed, here, getElem?_set_of_some here, Option.elim_some]
        omega
      exact ⟨fun _ => below, .inr below⟩
  · cases moves with
    | @itemStarted _ batchId orders currentIndex orderItem awaiting item =>
      cases here.symm.trans awaiting
      have total := UniqueTable.totalOf_set (Task.itemAhead i)
        (.createBulkOrders (.executing batchId orders (currentIndex + 1))) awaiting
      have bound := (List.getElem?_eq_some_iff.mp item).1
      have below : Below (State.owed i ⟨s.world, s.tasks.set i (.createBulkOrders
          (.executing batchId orders (currentIndex + 1))) ++
            [.bulkItem i currentIndex (OrderService.createOrder orderItem)]⟩) (s.owed i) := by
        refine Prod.lex_def.mpr (.inr ?_)
        simp only [State.owed, here, UniqueTable.totalOf_append,
          getElem?_append_of_some (getElem?_set_of_some here), Option.elim_some, Task.polls,
          Task.awaits, Task.itemAhead, BulkOrder.ahead, OrderService.createOrder, CreateOrder.rank,
          if_true, true_and] at total ⊢
        omega
      exact ⟨fun _ => below, .inr below⟩
  · cases moves with
    | @collected _ batchId orders currentIndex results awaiting all settled =>
      cases here.symm.trans awaiting
      have total := UniqueTable.totalOf_set (Task.itemAhead i)
        (.createBulkOrders (.updateBatchRecord batchId orders results)) awaiting
      have below : Below (State.owed i ⟨s.world, s.tasks.set i (.createBulkOrders
          (.updateBatchRecord batchId orders results))⟩) (s.owed i) := by
        refine Prod.lex_def.mpr (.inr ?_)
        simp only [State.owed, here, getElem?_set_of_some here, Option.elim_some, Task.polls,
          Task.awaits, Task.itemAhead, BulkOrder.ahead, true_and] at total ⊢
        omega
      exact ⟨fun _ => below, .inr below⟩
  · have closer := aside.closer moves
    rcases moves.stays here aside.1 aside.2.1 aside.2.2 with same | ⟨dead, rfl, -, -, gone⟩
    · refine ⟨fun own => ?_, ?_⟩
      · rw [own, Bool.toNat_true] at closer
        refine Prod.lex_def.mpr (.inr ?_)
        simp only [State.owed, here, same, true_and]
        omega
      · refine below_of_le ?_ ?_ <;> simp only [State.owed, here, same]
        · exact Nat.le_refl _
        · omega
    · refine ⟨fun own => absurd own Bool.false_ne_true, below_of_le ?_ ?_⟩ <;>
        simp only [State.owed, here, gone, Option.elim_some, Task.polls, Task.awaits]
      · exact Nat.zero_le _
      · omega

def Task.isClients : Task → Bool
  | bulkItem .. => false
  | reconcile _ => false
  | _ => true

theorem Task.Moves.isClients {w w' : World} {task' : Task} {a : Answer}
    (moved : Task.Moves env w task a w' task') : task'.isClients = task.isClients := by
  cases moved <;> rfl

theorem State.Moves.keeps_client (moves : State.Moves env s l t) (here : s.tasks[i]? = some task)
    (client : task.isClients = true) :
    ∃ task', t.tasks[i]? = some task' ∧ task'.isClients = true := by
  rcases State.InBatch.Aside.or_own i l with ⟨a, rfl⟩ | rfl | rfl | aside
  · cases moves with
    | settled awaiting moved =>
      cases here.symm.trans awaiting
      exact ⟨_, getElem?_set_of_some here, moved.isClients.trans client⟩
  · cases moves with
    | itemStarted awaiting item =>
      exact ⟨_, getElem?_append_of_some (getElem?_set_of_some here), rfl⟩
  · cases moves with
    | collected awaiting all settled => exact ⟨_, getElem?_set_of_some here, rfl⟩
  · rcases moves.stays here aside.1 aside.2.1 aside.2.2 with same | ⟨-, -, -, -, gone⟩
    · exact ⟨task, same, client⟩
    · exact ⟨.crashed, gone, rfl⟩

theorem Route.Asks.start_isClients {validators : Validators} {body : Json} {matched : Route}
    {request : Request} {now : Int} (asks : matched.Asks validators body request) :
    (request.start env now).isClients = true := by
  cases request with
  | reconcilePendingOrders => cases matched <;> contradiction
  | _ => rfl

theorem Task.outcome?_isSome (settled : task.settled = true) (client : task.isClients = true)
    (alive : task ≠ .crashed) : ∃ outcome, task.outcome? = some outcome := by
  cases task with
  | createOrder call => cases call <;> first | contradiction | exact ⟨_, rfl⟩
  | createBulkOrders call => cases call <;> first | contradiction | exact ⟨_, rfl⟩
  | trackOrder call => cases call <;> first | contradiction | exact ⟨_, rfl⟩
  | cancelOrder call => cases call <;> first | contradiction | exact ⟨_, rfl⟩
  | crashed => exact absurd rfl alive
  | _ => contradiction

end

/-! ## Registrations and logins -/

section
variable {config : LoginConfig} {users users' : UserTable} {s t : Accounts} {l : AccountsLabel} {i : Nat}

theorem AuthService.step_rank {data : RegisterRequest} {stage stage' : RegisterStage}
    {answer : RegisterAnswer}
    (h : step config.toAuthConfig users data stage answer = some (users', stage')) :
    stage'.rank < stage.rank := by
  cases stage <;> cases answer <;> try contradiction
  case findOne.found =>
    cases h
    unfold afterFindOne
    split <;> simp [RegisterStage.rank]
  case create.created passwordHash id issuedAt =>
    simp only [step] at h
    split at h
    · contradiction
    · split at h <;> cases h <;> exact Nat.zero_lt_one
  all_goals
    cases h
    simp [RegisterStage.rank]

theorem AuthService.loginStep_rank {data : LoginRequest} {stage stage' : LoginStage}
    {answer : LoginAnswer} (h : loginStep config users data stage answer = some stage') :
    stage'.rank < stage.rank := by
  cases stage <;> cases answer <;> try contradiction
  case findOne.found =>
    cases h
    unfold afterFindUser
    split <;> simp [LoginStage.rank]
  case compare.compared user issuedAt =>
    cases h
    unfold afterCompare
    split <;> exact Nat.zero_lt_one
  all_goals
    cases h
    simp [LoginStage.rank]

theorem Accounts.Moves.registration (moves : Accounts.Moves config s l t) {call : Register}
    (here : s.registrations.calls[i]? = some call) :
    ∃ call', t.registrations.calls[i]? = some call' ∧
      (call' = call ∧ (∀ answer, l ≠ .registrations (.settle i answer)) ∨
        call'.stage.rank < call.stage.rank) := by
  cases moves with
  | @registrations l registrations moved =>
    cases l with
    | register data =>
      cases moved
      exact ⟨call, getElem?_append_of_some here, .inl ⟨rfl, by rintro _ ⟨⟩⟩⟩
    | settle j answer =>
      obtain ⟨before, awaiting, rest⟩ := Option.bind_eq_some_iff.mp moved
      obtain ⟨⟨users, stage⟩, stepped, same⟩ := Option.bind_eq_some_iff.mp rest
      cases same
      by_cases own : j = i
      · subst own
        cases awaiting.symm.trans here
        exact ⟨_, getElem?_set_of_some here, .inr (AuthService.step_rank stepped)⟩
      · refine ⟨call, (List.getElem?_set_ne own).trans here, .inl ⟨rfl, ?_⟩⟩
        rintro _ ⟨⟩
        exact own rfl
  | asked data => exact ⟨call, here, .inl ⟨rfl, fun _ => AccountsLabel.noConfusion⟩⟩
  | settled awaiting stepped => exact ⟨call, here, .inl ⟨rfl, fun _ => AccountsLabel.noConfusion⟩⟩

theorem Accounts.Moves.loggingIn (moves : Accounts.Moves config s l t) {call : Login}
    (here : s.logins[i]? = some call) :
    ∃ call', t.logins[i]? = some call' ∧
      (call' = call ∧ (∀ answer, l ≠ .settle i answer) ∨ call'.stage.rank < call.stage.rank) := by
  cases moves with
  | registrations moved => exact ⟨call, here, .inl ⟨rfl, fun _ => AccountsLabel.noConfusion⟩⟩
  | asked data =>
    exact ⟨call, getElem?_append_of_some here, .inl ⟨rfl, fun _ => AccountsLabel.noConfusion⟩⟩
  | @settled j before answer stage awaiting stepped =>
    by_cases own : j = i
    · subst own
      cases awaiting.symm.trans here
      exact ⟨_, getElem?_set_of_some here, .inr (AuthService.loginStep_rank stepped)⟩
    · refine ⟨call, (List.getElem?_set_ne own).trans here, .inl ⟨rfl, ?_⟩⟩
      rintro _ ⟨⟩
      exact own rfl

theorem RegisterStage.answered (config : AuthConfig) (users : UserTable) (data : RegisterRequest)
    {stage : RegisterStage} (unsettled : stage.settled = false) :
    ∃ answer next, AuthService.step config users data stage answer = some next := by
  cases stage with
  | findOne => exact ⟨.found, _, rfl⟩
  | genSalt => exact ⟨.salted "", _, rfl⟩
  | hash salt => exact ⟨.hashed, _, rfl⟩
  | create passwordHash => exact ⟨.dbError (.error ""), _, rfl⟩
  | _ => contradiction

theorem LoginStage.answered (config : LoginConfig) (users : UserTable) (data : LoginRequest)
    {stage : LoginStage} (unsettled : stage.settled = false) :
    ∃ answer next, AuthService.loginStep config users data stage answer = some next := by
  cases stage with
  | findOne => exact ⟨.found, _, rfl⟩
  | compare user => exact ⟨.compared 0, _, rfl⟩
  | _ => contradiction

theorem RegisterStage.outcome?_isSome {stage : RegisterStage} (settled : stage.settled = true) :
    ∃ outcome, stage.outcome? = some outcome := by
  cases stage <;> first | contradiction | exact ⟨_, rfl⟩

theorem LoginStage.outcome?_isSome {stage : LoginStage} (settled : stage.settled = true) :
    ∃ outcome, stage.outcome? = some outcome := by
  cases stage <;> first | contradiction | exact ⟨_, rfl⟩

end

/-! ## The server -/

namespace Server

variable {config : ServerConfig} {s t : Server} {l : ServerLabel} {awaited : Awaited} {k : Nat}
  {exchange : Exchange}

def Holds (s : Server) : Awaited → Prop
  | .task i => ∃ task, s.platform.tasks[i]? = some task ∧ task.isClients = true
  | .registration i => ∃ call, s.accounts.registrations.calls[i]? = some call
  | .login i => ∃ call, s.accounts.logins[i]? = some call
  | _ => True

theorem Moves.platform_part (moves : Moves config s l t) :
    (t.platform = s.platform ∧ ∀ own, l ≠ .platform own) ∨
      ∃ own, State.Moves config.env s.platform own t.platform ∧
        (l = .platform own ∨ (∃ request, own = .start request) ∧ ∀ other, l ≠ .platform other) := by
  cases moves with
  | @calls request uuid batchId exchange body matched call platform of parsed found asks started =>
    have moved : (CourierPlatform.platform config.env).next s.platform (.start call) = some platform :=
      started
    exact .inr ⟨_, .of_next moved, .inr ⟨⟨call, rfl⟩, fun _ => ServerLabel.noConfusion⟩⟩
  | ofPlatform own moved => exact .inr ⟨_, .of_next moved, .inl rfl⟩
  | sent here awaits unanswered ended =>
    refine .inl ⟨rfl, ?_⟩
    rintro own rfl
    rcases ended with ⟨answer, same, -⟩ | ⟨same, -⟩ <;> cases same
  | _ => exact .inl ⟨rfl, fun _ => ServerLabel.noConfusion⟩

theorem Moves.accounts_part (moves : Moves config s l t) :
    (t.accounts = s.accounts ∧ ∀ own, l ≠ .accounts own) ∨
      ∃ own, Accounts.Moves config.login s.accounts own t.accounts ∧
        ∀ other, l = .accounts other → other = own := by
  cases moves with
  | @registers request uuid batchId exchange body data accounts of parsed found validated started =>
    have moved : (CourierPlatform.accounts config.login).next s.accounts
      (.registrations (.register data)) = some accounts := started
    exact .inr ⟨_, .of_next moved, fun _ => ServerLabel.noConfusion⟩
  | @logsIn request uuid batchId exchange body data accounts of parsed found validated started =>
    have moved : (CourierPlatform.accounts config.login).next s.accounts (.login data) =
      some accounts := started
    exact .inr ⟨_, .of_next moved, fun _ => ServerLabel.noConfusion⟩
  | ofAccounts own moved => exact .inr ⟨_, .of_next moved, fun _ same => by cases same; rfl⟩
  | sent here awaits unanswered ended =>
    refine .inl ⟨rfl, ?_⟩
    rintro own rfl
    rcases ended with ⟨answer, same, -⟩ | ⟨same, -⟩ <;> cases same
  | _ => exact .inl ⟨rfl, fun _ => ServerLabel.noConfusion⟩

theorem Holds.next (h : s.Holds awaited) (moves : Moves config s l t) : t.Holds awaited := by
  cases awaited with
  | task i =>
    obtain ⟨task, here, client⟩ := h
    rcases moves.platform_part with ⟨same, -⟩ | ⟨own, moved, -⟩
    · exact ⟨task, same ▸ here, client⟩
    · exact moved.keeps_client here client
  | registration i =>
    obtain ⟨call, here⟩ := h
    rcases moves.accounts_part with ⟨same, -⟩ | ⟨own, moved, -⟩
    · exact ⟨call, same ▸ here⟩
    · obtain ⟨call', there, -⟩ := moved.registration here
      exact ⟨call', there⟩
  | login i =>
    obtain ⟨call, here⟩ := h
    rcases moves.accounts_part with ⟨same, -⟩ | ⟨own, moved, -⟩
    · exact ⟨call, same ▸ here⟩
    · obtain ⟨call', there, -⟩ := moved.loggingIn here
      exact ⟨call', there⟩
  | _ => trivial

theorem settles_of_worksOn_registration {i : Nat} {own : AccountsLabel}
    (works : s.worksOn (.registration i) (.accounts own) = true) :
    ∃ answer, own = .registrations (.settle i answer) := by
  cases own with
  | registrations own =>
    cases own with
    | register data => contradiction
    | settle j answer => exact ⟨answer, by rw [of_decide_eq_true works]⟩
  | _ => contradiction

theorem settles_of_worksOn_login {i : Nat} {own : AccountsLabel}
    (works : s.worksOn (.login i) (.accounts own) = true) : ∃ answer, own = .settle i answer := by
  cases own with
  | settle j answer => exact ⟨answer, by rw [of_decide_eq_true works]⟩
  | _ => contradiction

theorem Moves.owed (moves : Moves config s l t) (holds : s.Holds awaited) :
    (s.worksOn awaited l = true → Below (t.owed awaited) (s.owed awaited)) ∧
      (t.owed awaited = s.owed awaited ∨ Below (t.owed awaited) (s.owed awaited)) := by
  cases awaited with
  | task i =>
    obtain ⟨task, here, -⟩ := holds
    rcases moves.platform_part with ⟨same, foreign⟩ | ⟨own, moved, rfl | ⟨-, foreign⟩⟩
    · refine ⟨fun works => ?_, .inl (by simp only [Server.owed, same])⟩
      cases l with
      | platform other => exact absurd rfl (foreign other)
      | _ => contradiction
    · exact moved.owed here
    · refine ⟨fun works => ?_, (moved.owed here).2⟩
      cases l with
      | platform other => exact absurd rfl (foreign other)
      | _ => contradiction
  | registration i =>
    obtain ⟨call, here⟩ := holds
    rcases moves.accounts_part with ⟨same, foreign⟩ | ⟨own, moved, named⟩
    · refine ⟨fun works => ?_, .inl (by simp only [Server.owed, same])⟩
      cases l with
      | accounts other => exact absurd rfl (foreign other)
      | _ => contradiction
    · obtain ⟨call', there, moved⟩ := moved.registration here
      rcases moved with ⟨rfl, still⟩ | fewer
      · refine ⟨fun works => ?_, .inl (by simp only [Server.owed, here, there])⟩
        cases l with
        | accounts other =>
          cases named other rfl
          obtain ⟨answer, rfl⟩ := settles_of_worksOn_registration works
          exact absurd rfl (still answer)
        | _ => contradiction
      · have falls : Below (t.owed (.registration i)) (s.owed (.registration i)) := by
          simpa only [Server.owed, here, there, Option.elim_some] using below_of_lt fewer
        exact ⟨fun _ => falls, .inr falls⟩
  | login i =>
    obtain ⟨call, here⟩ := holds
    rcases moves.accounts_part with ⟨same, foreign⟩ | ⟨own, moved, named⟩
    · refine ⟨fun works => ?_, .inl (by simp only [Server.owed, same])⟩
      cases l with
      | accounts other => exact absurd rfl (foreign other)
      | _ => contradiction
    · obtain ⟨call', there, moved⟩ := moved.loggingIn here
      rcases moved with ⟨rfl, still⟩ | fewer
      · refine ⟨fun works => ?_, .inl (by simp only [Server.owed, here, there])⟩
        cases l with
        | accounts other =>
          cases named other rfl
          obtain ⟨answer, rfl⟩ := settles_of_worksOn_login works
          exact absurd rfl (still answer)
        | _ => contradiction
      · have falls : Below (t.owed (.login i)) (s.owed (.login i)) := by
          simpa only [Server.owed, here, there, Option.elim_some] using below_of_lt fewer
        exact ⟨fun _ => falls, .inr falls⟩
  | _ => exact ⟨(fun works => nomatch works), .inl rfl⟩

/-- The state in which every client is waited for by somebody. -/
structure Serving (config : ServerConfig) (s : Server) : Prop where
  pooled : s.platform.Pooled
  accounts : s.accounts.Sound config.login
  holds : ∀ exchange ∈ s.exchanges, exchange.response = none →
    ∃ awaited, exchange.awaited = some awaited ∧ s.Holds awaited

theorem Serving.init (config : ServerConfig) (w : World) : (init w).Serving config :=
  ⟨State.pooled_init w, .init config.login, fun _ mem => absurd mem List.not_mem_nil⟩

theorem Serving.next (h : s.Serving config) (whole : s.wholeProcesses l = true)
    (moves : Moves config s l t) : t.Serving config := by
  refine ⟨?_, (moves.keeps_accounts h.accounts).2, fun exchange mem waits => ?_⟩
  · rcases moves.platform_part with ⟨same, -⟩ | ⟨own, moved, rfl | ⟨⟨request, rfl⟩, -⟩⟩
    · rw [same]
      exact h.pooled
    · exact h.pooled.next whole moved
    · exact h.pooled.next rfl moved
  · have kept (known : exchange ∈ s.exchanges) :
        ∃ awaited, exchange.awaited = some awaited ∧ t.Holds awaited := by
      obtain ⟨awaited, awaits, holds⟩ := h.holds exchange known waits
      exact ⟨awaited, awaits, holds.next moves⟩
    have added {last : Exchange} (mem : exchange ∈ s.exchanges ++ [last])
        (new : last.response = none → ∃ awaited, last.awaited = some awaited ∧ t.Holds awaited) :
        ∃ awaited, exchange.awaited = some awaited ∧ t.Holds awaited := by
      rcases List.mem_append.mp mem with known | last
      · exact kept known
      · cases List.mem_singleton.mp last
        exact new waits
    cases moves with
    | preflight options => exact added mem fun waits => nomatch waits
    | refused of err => exact added mem fun waits => nomatch waits
    | profile of parsed found verified => exact added mem fun waits => nomatch waits
    | couriers of parsed found listed => exact added mem fun waits => nomatch waits
    | queries of parsed found query =>
      refine added mem fun _ => ⟨_, rfl, ?_⟩
      rcases query with ⟨orderId, -, rfl⟩ | ⟨-, rfl⟩ <;> trivial
    | calls of parsed found asks started =>
      cases Option.some.inj started
      exact added mem fun _ => ⟨_, rfl, _, List.getElem?_concat_length, asks.start_isClients⟩
    | registers of parsed found validated started =>
      cases Option.some.inj started
      exact added mem fun _ => ⟨_, rfl, _, List.getElem?_concat_length⟩
    | logsIn of parsed found validated started =>
      cases Option.some.inj started
      exact added mem fun _ => ⟨_, rfl, _, List.getElem?_concat_length⟩
    | sent here awaits unanswered ended =>
      rcases List.mem_or_eq_of_mem_set mem with known | rfl
      · exact kept known
      · contradiction
    | ofPlatform own moved => exact kept mem
    | ofAccounts own moved => exact kept mem

theorem findOrder_isSome (w : World) (orderId : String) :
    (findOrder w orderId (w.events.filter fun event => event.orderId = orderId)).isSome = true := by
  cases found : w.findOne orderId with
  | none => simp [findOrder, found]
  | some order =>
    have own := World.findOne_orderId found
    subst own
    simp [findOrder, found]

theorem Serving.works (h : s.Serving config) (here : s.exchanges[k]? = some exchange)
    (waits : exchange.response = none) (alive : ¬ s.Lost exchange) :
    ∃ l, s.worksFor k l = true ∧ (server config).next s l ≠ none := by
  obtain ⟨awaited, awaits, holds⟩ := h.holds exchange (List.mem_of_getElem? here) waits
  have responds {outcome : Except Thrown (Nat × ResponseData)} (ended : s.outcome? awaited = some outcome) :
      ∃ l, s.worksFor k l = true ∧ (server config).next s l ≠ none := by
    refine ⟨.respond k, by simp [worksFor], ?_⟩
    simp [server, Server.next, send, here, awaits, waits, ended]
  have queries {answer : QueryAnswer} {outcome : Except Thrown (Nat × ResponseData)}
      (ended : s.queried config awaited answer = some outcome) :
      ∃ l, s.worksFor k l = true ∧ (server config).next s l ≠ none := by
    refine ⟨.query k answer, by simp [worksFor], ?_⟩
    simp [server, Server.next, send, here, awaits, waits, ended]
  have worksFor {l : ServerLabel} (part : (∃ own, l = .platform own) ∨ ∃ own, l = .accounts own)
      (own : s.worksOn awaited l = true) : s.worksFor k l = true := by
    rcases part with ⟨_, rfl⟩ | ⟨_, rfl⟩ <;> simp [Server.worksFor, here, waits, awaits, own]
  cases awaited with
  | task i =>
    obtain ⟨task, found, client⟩ := holds
    cases settled : task.settled with
    | false =>
      obtain ⟨l, platform, own, proceeds, -, moved⟩ := h.pooled.works config.env found settled
      have isOwn : l.isOwn = true := by
        cases l <;> first | rfl | contradiction
      have stepped : State.next config.env s.platform l = some platform := moved
      refine ⟨.platform l, worksFor (.inl ⟨l, rfl⟩) own, ?_⟩
      simp [server, Server.next, isOwn, stepped]
    | true =>
      have living : task ≠ .crashed := by
        rintro rfl
        exact alive ⟨i, awaits, found⟩
      obtain ⟨outcome, ended⟩ := Task.outcome?_isSome settled client living
      have told : s.outcome? (.task i) = some outcome := by simp [outcome?, found, ended]
      exact responds told
  | registration i =>
    obtain ⟨call, found⟩ := holds
    cases settled : call.stage.settled with
    | false =>
      obtain ⟨answer, ⟨users, stage⟩, stepped⟩ := RegisterStage.answered config.login.toAuthConfig
        s.accounts.registrations.users call.data settled
      refine ⟨.accounts (.registrations (.settle i answer)),
        worksFor (.inr ⟨_, rfl⟩) (by simp [worksOn]), ?_⟩
      simp [server, Server.next, AccountsLabel.isOwn, Accounts.next, Registrations.next, found, stepped]
    | true =>
      obtain ⟨outcome, ended⟩ := RegisterStage.outcome?_isSome settled
      have told : s.outcome? (.registration i) = some outcome := by simp [outcome?, found, ended]
      exact responds told
  | login i =>
    obtain ⟨call, found⟩ := holds
    cases settled : call.stage.settled with
    | false =>
      obtain ⟨answer, stage, stepped⟩ := LoginStage.answered config.login
        s.accounts.registrations.users call.data settled
      refine ⟨.accounts (.settle i answer), worksFor (.inr ⟨_, rfl⟩) (by simp [worksOn]), ?_⟩
      simp [server, Server.next, AccountsLabel.isOwn, Accounts.next, found, stepped]
    | true =>
      obtain ⟨outcome, ended⟩ := LoginStage.outcome?_isSome settled
      have told : s.outcome? (.login i) = some outcome := by simp [outcome?, found, ended]
      exact responds told
  | findOrder orderId =>
    obtain ⟨outcome, ended⟩ :=
      Option.isSome_iff_exists.mp (findOrder_isSome s.platform.world orderId)
    have told : s.queried config (.findOrder orderId) (.found _) = some outcome := ended
    exact queries told
  | authenticate =>
    have told : s.queried config .authenticate .ok = some (.ok (200, .health (s.healthData config none))) :=
      rfl
    exact queries told

theorem due_of_waits (here : s.exchanges[k]? = some exchange) (awaits : exchange.awaited = some awaited)
    (waits : exchange.response = none) :
    s.due k = ((s.owed awaited).1, (s.owed awaited).2 + 1) := by
  obtain ⟨request, requestId, user, own, response⟩ := exchange
  cases awaits
  cases waits
  simp only [due, here]

theorem due_of_answered {response : HttpResponse} (here : s.exchanges[k]? = some exchange)
    (answered : exchange.response = some response) : s.due k = (0, 0) := by
  obtain ⟨request, requestId, user, own, own'⟩ := exchange
  cases answered
  simp only [due, here]

theorem next_of_answered (here : s.exchanges[k]? = some exchange)
    (answered : exchange.response.isSome = true) (works : s.worksFor k l = true) :
    (server config).next s l = none := by
  obtain ⟨response, sent⟩ := Option.isSome_iff_exists.mp answered
  cases l with
  | query j answer =>
    cases of_decide_eq_true works
    cases awaits : exchange.awaited <;> simp [server, Server.next, send, here, sent, awaits]
  | respond j =>
    cases of_decide_eq_true works
    cases awaits : exchange.awaited <;> simp [server, Server.next, send, here, sent, awaits]
  | _ => simp [worksFor, here, sent] at works

theorem Moves.responds (moves : Moves config s l t) (own : (∃ answer, l = .query k answer) ∨ l = .respond k) :
    ∃ exchange exchange', s.exchanges[k]? = some exchange ∧ exchange.response = none ∧
      t.exchanges[k]? = some exchange' ∧ exchange'.response ≠ none := by
  cases moves with
  | @sent _ j exchange awaited outcome here awaits unanswered ended =>
    have same : j = k := by
      rcases own with ⟨answer, rfl⟩ | rfl <;>
        rcases ended with ⟨answer', same, -⟩ | ⟨same, -⟩ <;> cases same <;> rfl
    subst same
    exact ⟨exchange, _, here, unanswered, getElem?_set_of_some here, Option.some_ne_none _⟩
  | _ => rcases own with ⟨answer, same⟩ | same <;> cases same

theorem Moves.due (moves : Moves config s l t) (h : s.Serving config)
    (here : s.exchanges[k]? = some exchange) :
    (s.worksFor k l = true → Below (t.due k) (s.due k)) ∧
      (t.due k = s.due k ∨ Below (t.due k) (s.due k)) := by
  obtain ⟨exchange', there, kept⟩ := (moves.turns h.accounts).1.keeps here
  cases waits : exchange.response with
  | some response =>
    have before := due_of_answered here waits
    have after := due_of_answered there (kept.answered response waits)
    refine ⟨fun works => ?_, .inl (after.trans before.symm)⟩
    have idle (own : (∃ answer, l = .query k answer) ∨ l = .respond k) : False := by
      obtain ⟨other, -, there, unanswered, -⟩ := moves.responds own
      cases here.symm.trans there
      rw [waits] at unanswered
      contradiction
    cases l with
    | query j answer => exact (idle (.inl ⟨answer, by rw [of_decide_eq_true works]⟩)).elim
    | respond j => exact (idle (.inr (by rw [of_decide_eq_true works]))).elim
    | _ => simp [worksFor, here, waits] at works
  | none =>
    obtain ⟨awaited, awaits, holds⟩ := h.holds exchange (List.mem_of_getElem? here) waits
    have before := due_of_waits here awaits waits
    cases answered : exchange'.response with
    | some response =>
      have below : Below (t.due k) (s.due k) := by
        rw [due_of_answered there answered, before]
        refine Prod.lex_def.mpr ?_
        dsimp only
        omega
      exact ⟨fun _ => below, .inr below⟩
    | none =>
      obtain ⟨falls, keeps⟩ := moves.owed holds
      have after := due_of_waits there (by rw [kept.same]; exact awaits) answered
      rw [Below, Prod.lex_def, Prod.ext_iff] at keeps
      refine ⟨fun works => ?_, ?_⟩
      · have waiting (own : (∃ answer, l = .query k answer) ∨ l = .respond k) : False := by
          obtain ⟨-, other, -, -, found, sent⟩ := moves.responds own
          cases there.symm.trans found
          exact sent answered
        have below : Below (t.owed awaited) (s.owed awaited) := by
          cases l with
          | query j answer => exact (waiting (.inl ⟨answer, by rw [of_decide_eq_true works]⟩)).elim
          | respond j => exact (waiting (.inr (by rw [of_decide_eq_true works]))).elim
          | _ => exact falls (by simpa [worksFor, here, waits, awaits] using works)
        rw [Below, Prod.lex_def] at below
        rw [before, after]
        refine Prod.lex_def.mpr ?_
        dsimp only
        omega
      · rw [before, after, Below, Prod.lex_def, Prod.ext_iff]
        dsimp only
        omega

theorem Concluded.next (h : s.Concluded k) (moves : Moves config s l t)
    (sound : s.accounts.Sound config.login) : t.Concluded k := by
  obtain ⟨exchange, here, answered | ⟨i, awaits, died⟩⟩ := h
  · obtain ⟨exchange', there, kept⟩ := (moves.turns sound).1.keeps here
    obtain ⟨response, sent⟩ := Option.isSome_iff_exists.mp answered
    exact ⟨exchange', there, .inl (by rw [kept.answered response sent, Option.isSome_some])⟩
  · obtain ⟨exchange', there, kept⟩ := (moves.turns sound).1.keeps here
    refine ⟨exchange', there, .inr ⟨i, by rw [kept.same]; exact awaits, ?_⟩⟩
    rcases moves.platform_part with ⟨same, -⟩ | ⟨own, moved, -⟩
    · rw [same]
      exact died
    · exact (moved.keeps_settled died rfl).elim id id

end Server

open Server in
/-- Whatever other requests, cycles of the worker and failures there are: a client for whom the server
keeps working is answered some time, or its process dies. -/
theorem clients_are_answered {config : ServerConfig} {w : World} {k n : Nat}
    (run : EndlessRun (server config)) (begins : run.state 0 = .init w)
    (whole : ∀ n, (run.state n).wholeProcesses (run.label n) = true)
    (fair : run.WeaklyFair fun s l => s.worksFor k l = true)
    (asked : k < (run.state n).exchanges.length) :
    ∃ N, ∀ later ≥ N, (run.state later).Concluded k := by
  have serving (i : Nat) : (run.state i).Serving config := by
    have reach : (server config).Reaches (fun s l => s.wholeProcesses l = true) (run.state 0)
        (run.state i) := run.reaches whole (Nat.zero_le i)
    refine reach.invariant (Serving config) (begins ▸ .init config w) ?_
    intro a l b inv whole moved
    exact inv.next whole (.of_next moved)
  have moves (i : Nat) : Moves config (run.state i) (run.label i) (run.state (i + 1)) :=
    .of_next (run.step i)
  have here (i : Nat) (later : n ≤ i) : ∃ exchange, (run.state i).exchanges[k]? = some exchange := by
    induction later with
    | refl => exact ⟨_, List.getElem?_eq_getElem asked⟩
    | @step i _ ih =>
      obtain ⟨exchange, here⟩ := ih
      obtain ⟨exchange', there, -⟩ := ((moves i).turns (serving i).accounts).1.keeps here
      exact ⟨exchange', there⟩
  obtain ⟨m, begun, stuck⟩ := fair.ends below_wellFounded (Server.due k) n
    (fun i later works => by
      obtain ⟨exchange, here⟩ := here i later
      exact ((moves i).due (serving i) here).1 works)
    (fun i later => by
      obtain ⟨exchange, here⟩ := here i later
      exact ((moves i).due (serving i) here).2)
  have concluded : (run.state m).Concluded k := by
    obtain ⟨exchange, here⟩ := here m begun
    refine ⟨exchange, here, ?_⟩
    cases waits : exchange.response with
    | some response => exact .inl rfl
    | none =>
      by_contra alive
      obtain ⟨l, works, possible⟩ := (serving m).works here waits fun lost => alive (.inr lost)
      exact possible (stuck l works)
  refine ⟨m, fun later after => ?_⟩
  induction after with
  | refl => exact concluded
  | @step i _ ih => exact ih.next (moves i) (serving i).accounts

/-! The parcel is booked by a call whose first query fails; after its response only time passes. -/

def refusedBooking : Nat → ServerLabel
  | 0 => .receive bookParcel "U-1" "B-1"
  | 1 => .platform (.settle 0 (.dbError (.error "timeout")))
  | 2 => .respond 0
  | _ => .platform (.tick 1)

theorem refusedBooking_applies (n : Nat) :
    ((server productionServer).follow refusedBooking (.init .empty) n).isSome := by
  have first : ∀ n < 4, ((server productionServer).follow refusedBooking (.init .empty) n).isSome := by
    decide
  induction n with
  | zero => rfl
  | succ n ih =>
    by_cases early : n + 1 < 4
    · exact first (n + 1) early
    · obtain ⟨s, here⟩ := Option.isSome_iff_exists.mp ih
      have later : refusedBooking n = .platform (.tick 1) := by
        match n, early with
        | n + 3, _ => rfl
      rw [Machine.follow, here, Option.bind_some, later]
      rfl

def refusedBookingRun : EndlessRun (server productionServer) :=
  .following refusedBooking (.init .empty) refusedBooking_applies

theorem refusedBookingRun_answered (d : Nat) :
    ((refusedBookingRun.state (3 + d)).exchanges[0]?).any (·.response.isSome) = true := by
  induction d with
  | zero => decide
  | succ d ih =>
    have moved := refusedBookingRun.step (3 + d)
    have ticks : refusedBookingRun.label (3 + d) = .platform (.tick 1) := by
      rw [Nat.add_comm]
      rfl
    rw [ticks] at moved
    rw [← Nat.add_assoc, ← Option.some.inj moved]
    exact ih

theorem clients_are_answered_refused :
    ∃ N, ∀ later ≥ N, (refusedBookingRun.state later).Concluded 0 := by
  have asked : 0 < (refusedBookingRun.state 1).exchanges.length := by decide
  refine clients_are_answered refusedBookingRun rfl ?_ ?_ asked
  · intro n
    match n with
    | 0 => rfl
    | 1 => rfl
    | 2 => rfl
    | n + 3 => rfl
  · intro n
    refine ⟨3 + n, by omega, .inr fun l works => ?_⟩
    obtain ⟨exchange, here, answered⟩ := (Option.any_eq_true _ _).mp (refusedBookingRun_answered n)
    exact Server.next_of_answered here answered works

end CourierPlatform
