import CourierPlatform.Proofs.Logins
import CourierPlatform.Proofs.Submissions
import CourierPlatform.Spec.Responses
import CourierPlatform.Spec.ServerRuns

/-! What a step of the API server can do, and what the platform and the accounts see of it: calls of the
order services whose arguments the validators have accepted, and registrations and logins of the same
kind. -/
namespace CourierPlatform
open Js Library

def Request.accepted (formats : Formats) : Request → Bool
  | createOrder orderData => orderData.accepted formats
  | createBulkOrders orders _ => bulkCreateOrderSchema formats orders
  | cancelOrder _ reason => cancelOrderSchema reason
  | _ => true

def Label.accepted (formats : Formats) : Label → Bool
  | start request => request.accepted formats
  | _ => true

theorem Route.Asks.accepted {validators : Validators} {formats : Formats} {body : Json}
    {matched : Route} {request : Request} (h : matched.Asks validators body request)
    (sound : validators.Sound formats) : request.accepted formats = true := by
  cases matched <;> cases request <;> try contradiction
  case createOrder.createOrder orderData => exact sound.createOrder body orderData h
  case bulkCreateOrders.createBulkOrders orders batchId => exact sound.bulkCreateOrder body orders h
  case trackOrder.trackOrder => rfl
  case cancelOrder.cancelOrder orderId own reason => exact sound.cancelOrder body reason h.2

theorem validateData_ok {α : Type} {validateFn : ValidateFunction α} {body : Json} {data : α}
    (h : validateData validateFn body = .ok data) : validateFn body = .ok data := by
  unfold validateData at h
  cases answered : validateFn body with
  | ok result => simpa [answered, Except.mapError] using h
  | error errors => simp [answered, Except.mapError] at h

/-- The exchange of a request as the middleware behind `cors` leaves it. -/
structure Exchange.Of (received : HttpRequest) (uuid : String) (exchange : Exchange) : Prop where
  method : received.method ≠ "OPTIONS"
  request : exchange.request = received
  requestId : exchange.requestId = received.body.toOption.map fun _ => received.requestId uuid
  awaited : exchange.awaited = none
  response : exchange.response = none

namespace Server

inductive Moves (config : ServerConfig) (s : Server) : ServerLabel → Server → Prop where
  | preflight {request uuid batchId} (options : request.method = "OPTIONS") :
      Moves config s (.receive request uuid batchId)
        { s with exchanges := s.exchanges ++ [{ request, response := some .preflight }] }
  | refused {request uuid batchId exchange} (of : exchange.Of request uuid) (err : Thrown) :
      Moves config s (.receive request uuid batchId) (s.answer config exchange (.error err))
  | profile {request uuid batchId exchange body user} (of : exchange.Of request uuid)
      (parsed : request.body = .ok body)
      (found : route config.env.js request.method request.path = .ok (some .getProfile))
      (verified : authenticate config.verify s.now request.authorization = .ok user) :
      Moves config s (.receive request uuid batchId)
        (s.answer config exchange (.ok (200, .profile (some user))))
  | couriers {request uuid batchId exchange body supportedCouriers} (of : exchange.Of request uuid)
      (parsed : request.body = .ok body)
      (found : route config.env.js request.method request.path = .ok (some .listSupportedCouriers))
      (listed : supportedCouriers = config.env.registry.getSupportedCouriers) :
      Moves config s (.receive request uuid batchId)
        (s.answer config exchange (.ok (200, .couriers supportedCouriers supportedCouriers.length)))
  | queries {request uuid batchId exchange body matched awaited} (of : exchange.Of request uuid)
      (parsed : request.body = .ok body)
      (found : route config.env.js request.method request.path = .ok (some matched))
      (query : (∃ orderId, matched = .getOrderById orderId ∧ awaited = .findOrder orderId) ∨
        matched = .healthCheck ∧ awaited = .authenticate) :
      Moves config s (.receive request uuid batchId) (s.await exchange awaited)
  | calls {request uuid batchId exchange body matched call platform} (of : exchange.Of request uuid)
      (parsed : request.body = .ok body)
      (found : route config.env.js request.method request.path = .ok (some matched))
      (asks : matched.Asks config.validators body call)
      (started : State.next config.env s.platform (.start call) = some platform) :
      Moves config s (.receive request uuid batchId)
        { s.await exchange (.task s.platform.tasks.length) with platform }
  | registers {request uuid batchId exchange body data accounts} (of : exchange.Of request uuid)
      (parsed : request.body = .ok body)
      (found : route config.env.js request.method request.path = .ok (some .register))
      (validated : config.validators.register body = .ok data)
      (started : s.accounts.next config.login (.registrations (.register data)) = some accounts) :
      Moves config s (.receive request uuid batchId)
        { s.await exchange (.registration s.accounts.registrations.calls.length) with accounts }
  | logsIn {request uuid batchId exchange body data accounts} (of : exchange.Of request uuid)
      (parsed : request.body = .ok body)
      (found : route config.env.js request.method request.path = .ok (some .login))
      (validated : config.validators.login body = .ok data)
      (started : s.accounts.next config.login (.login data) = some accounts) :
      Moves config s (.receive request uuid batchId)
        { s.await exchange (.login s.accounts.logins.length) with accounts }
  | sent {l k exchange awaited outcome} (here : s.exchanges[k]? = some exchange)
      (awaits : exchange.awaited = some awaited) (unanswered : exchange.response = none)
      (ended : (∃ answer, l = .query k answer ∧ s.queried config awaited answer = some outcome) ∨
        l = .respond k ∧ s.outcome? awaited = some outcome) :
      Moves config s l
        { s with
          exchanges := s.exchanges.set k
            { exchange with response := some (s.reply config exchange.requestId outcome) } }
  | ofPlatform {l platform} (own : l.isOwn = true)
      (moved : State.next config.env s.platform l = some platform) :
      Moves config s (.platform l) { s with platform }
  | ofAccounts {l accounts} (own : l.isOwn = true)
      (moved : s.accounts.next config.login l = some accounts) :
      Moves config s (.accounts l) { s with accounts }

variable {config : ServerConfig} {s t : Server} {l : ServerLabel}

theorem Moves.of_validated {α : Type} {validateFn : ValidateFunction α} {request : HttpRequest}
    {uuid batchId : String} {exchange : Exchange} {body : Json} {handler : α → Option Server}
    (of : exchange.Of request uuid)
    (handled : ∀ data, validateFn body = .ok data → handler data = some t →
      Moves config s (.receive request uuid batchId) t)
    (h : s.validated config validateFn exchange body handler = some t) :
    Moves config s (.receive request uuid batchId) t := by
  unfold validated at h
  split at h
  next data ok => exact handled data (validateData_ok ok) h
  next err refused =>
    cases Option.some.inj h
    exact .refused of err

theorem Moves.of_callService {request : HttpRequest} {uuid batchId : String} {exchange : Exchange}
    {body : Json} {matched : Route} {call : Request} (of : exchange.Of request uuid)
    (parsed : request.body = .ok body)
    (found : route config.env.js request.method request.path = .ok (some matched))
    (asks : matched.Asks config.validators body call)
    (h : s.callService config exchange call = some t) :
    Moves config s (.receive request uuid batchId) t := by
  obtain ⟨platform, started, rfl⟩ := Option.map_eq_some_iff.mp h
  exact .calls of parsed found asks started

theorem Moves.of_handle {request : HttpRequest} {uuid batchId : String} {exchange : Exchange}
    {body : Json} {matched : Route} (of : exchange.Of request uuid) (parsed : request.body = .ok body)
    (found : route config.env.js request.method request.path = .ok (some matched))
    (h : s.handle config exchange body batchId matched = some t) :
    Moves config s (.receive request uuid batchId) t := by
  have withUser : (handle.withUser config s exchange).Of request uuid :=
    ⟨of.method, of.request, of.requestId, of.awaited, of.response⟩
  cases matched with
  | createOrder =>
    refine .of_validated withUser (fun data ok called => ?_) h
    have asks : Route.createOrder.Asks config.validators body (.createOrder data) := ok
    exact .of_callService withUser parsed found asks called
  | bulkCreateOrders =>
    refine .of_validated withUser (fun data ok called => ?_) h
    have asks : Route.bulkCreateOrders.Asks config.validators body (.createBulkOrders data batchId) := ok
    exact .of_callService withUser parsed found asks called
  | trackOrder orderId =>
    have asks : (Route.trackOrder orderId).Asks config.validators body (.trackOrder orderId) := rfl
    exact .of_callService withUser parsed found asks h
  | cancelOrder orderId =>
    refine .of_validated withUser (fun data ok called => ?_) h
    have asks : (Route.cancelOrder orderId).Asks config.validators body (.cancelOrder orderId data) :=
      ⟨rfl, ok⟩
    exact .of_callService withUser parsed found asks called
  | getOrderById orderId =>
    cases Option.some.inj h
    exact .queries withUser parsed found (.inl ⟨orderId, rfl, rfl⟩)
  | register =>
    refine .of_validated of (fun data ok called => ?_) h
    obtain ⟨accounts, started, rfl⟩ := Option.map_eq_some_iff.mp called
    exact .registers of parsed found ok started
  | login =>
    refine .of_validated of (fun data ok called => ?_) h
    obtain ⟨accounts, started, rfl⟩ := Option.map_eq_some_iff.mp called
    exact .logsIn of parsed found ok started
  | getProfile =>
    simp only [handle] at h
    split at h
    next user verified =>
      cases Option.some.inj h
      have known : ({ exchange with user := some user } : Exchange).Of request uuid :=
        ⟨of.method, of.request, of.requestId, of.awaited, of.response⟩
      exact .profile known parsed found (of.request ▸ verified)
    next err refused =>
      cases Option.some.inj h
      exact .refused of err
  | listSupportedCouriers =>
    cases Option.some.inj h
    exact .couriers of parsed found rfl
  | healthCheck =>
    cases Option.some.inj h
    exact .queries of parsed found (.inr ⟨rfl, rfl⟩)

theorem Moves.of_send {k : Nat} {outcome : Awaited → Option (Except Thrown (Nat × ResponseData))}
    (ended : ∀ awaited result, outcome awaited = some result →
      (∃ answer, l = .query k answer ∧ s.queried config awaited answer = some result) ∨
        l = .respond k ∧ s.outcome? awaited = some result)
    (h : s.send config k outcome = some t) : Moves config s l t := by
  unfold send at h
  split at h
  next exchange here =>
    split at h
    next awaited awaits unanswered =>
      obtain ⟨result, done, rfl⟩ := Option.map_eq_some_iff.mp h
      exact .sent here awaits unanswered (ended awaited result done)
    next => contradiction
  next => contradiction

theorem Moves.of_next (h : (server config).next s l = some t) : Moves config s l t := by
  change Server.next config s l = some t at h
  cases l with
  | receive request uuid batchId =>
    simp only [Server.next, receive] at h
    split at h
    next options =>
      cases Option.some.inj h
      exact .preflight options
    next method =>
      split at h
      next err refused =>
        cases Option.some.inj h
        have of : ({ request } : Exchange).Of request uuid :=
          ⟨method, rfl, by simp [refused, Except.toOption], rfl, rfl⟩
        exact .refused of err
      next body parsed =>
        have of : ({ request, requestId := some (request.requestId uuid) } : Exchange).Of request uuid :=
          ⟨method, rfl, by simp [parsed, Except.toOption], rfl, rfl⟩
        split at h
        next matched found => exact .of_handle of parsed found h
        next =>
          cases Option.some.inj h
          exact .refused of _
        next err undecoded =>
          cases Option.some.inj h
          exact .refused of err
  | query k answer => exact .of_send (fun awaited result done => .inl ⟨answer, rfl, done⟩) h
  | respond k => exact .of_send (fun awaited result done => .inr ⟨rfl, done⟩) h
  | platform l =>
    simp only [Server.next] at h
    split at h
    next own =>
      obtain ⟨platform, moved, rfl⟩ := Option.map_eq_some_iff.mp h
      exact .ofPlatform own moved
    next => contradiction
  | accounts l =>
    simp only [Server.next] at h
    split at h
    next own =>
      obtain ⟨accounts, moved, rfl⟩ := Option.map_eq_some_iff.mp h
      exact .ofAccounts own moved
    next => contradiction

/-! ## What clients are sent -/

inductive Settles (config : ServerConfig) (s : Server) : Except Thrown (Nat × ResponseData) → Prop where
  | refused (err : Thrown) : Settles config s (.error err)
  | profile (user : DecodedToken) : Settles config s (.ok (200, .profile (some user)))
  | couriers (supportedCouriers : List String) :
      Settles config s (.ok (200, .couriers supportedCouriers supportedCouriers.length))
  | queried {awaited answer outcome} (ended : s.queried config awaited answer = some outcome) :
      Settles config s outcome
  | ended {awaited outcome} (ended : s.outcome? awaited = some outcome) : Settles config s outcome

theorem Moves.replied {exchange : Exchange} {response : HttpResponse} (moves : Moves config s l t)
    (mem : exchange ∈ t.exchanges) (answered : exchange.response = some response) :
    (∃ before ∈ s.exchanges, before.response = some response) ∨ response = .preflight ∨
      ∃ outcome, Settles config s outcome ∧ response = s.reply config exchange.requestId outcome := by
  have direct {request : HttpRequest} {uuid : String} {before : Exchange}
      {outcome : Except Thrown (Nat × ResponseData)} (of : before.Of request uuid)
      (settles : Settles config s outcome)
      (mem : exchange ∈ (s.answer config before outcome).exchanges) :
      (∃ before ∈ s.exchanges, before.response = some response) ∨ response = .preflight ∨
        ∃ outcome, Settles config s outcome ∧
          response = s.reply config exchange.requestId outcome := by
    rcases List.mem_append.mp mem with earlier | new
    · exact .inl ⟨exchange, earlier, answered⟩
    · cases List.mem_singleton.mp new
      exact .inr (.inr ⟨outcome, settles, (Option.some.inj answered).symm⟩)
  have waits {request : HttpRequest} {uuid : String} {before : Exchange} {awaited : Awaited}
      (of : before.Of request uuid)
      (mem : exchange ∈ s.exchanges ++ [{ before with awaited := some awaited }]) :
      ∃ before ∈ s.exchanges, before.response = some response := by
    rcases List.mem_append.mp mem with earlier | new
    · exact ⟨exchange, earlier, answered⟩
    · cases List.mem_singleton.mp new
      change before.response = some response at answered
      rw [of.response] at answered
      contradiction
  cases moves with
  | preflight options =>
    rcases List.mem_append.mp mem with earlier | new
    · exact .inl ⟨exchange, earlier, answered⟩
    · cases List.mem_singleton.mp new
      exact .inr (.inl (Option.some.inj answered).symm)
  | refused of err => exact direct of (.refused err) mem
  | profile of parsed found verified => exact direct of (.profile _) mem
  | couriers of parsed found listed => exact direct of (.couriers _) mem
  | queries of parsed found query => exact .inl (waits of mem)
  | calls of parsed found asks started => exact .inl (waits of mem)
  | registers of parsed found validated started => exact .inl (waits of mem)
  | logsIn of parsed found validated started => exact .inl (waits of mem)
  | @sent _ k before awaited outcome here awaits unanswered ended =>
    rcases List.mem_or_eq_of_mem_set mem with earlier | rfl
    · exact .inl ⟨exchange, earlier, answered⟩
    · refine .inr (.inr ⟨outcome, ?_, (Option.some.inj answered).symm⟩)
      rcases ended with ⟨answer, -, ended⟩ | ⟨-, ended⟩
      · exact .queried ended
      · exact .ended ended
  | ofPlatform isOwn moved => exact .inl ⟨exchange, mem, answered⟩
  | ofAccounts isOwn moved => exact .inl ⟨exchange, mem, answered⟩

/-! ## What the services see -/

theorem Moves.platform_step {formats : Formats} (sound : config.validators.Sound formats)
    (moves : Moves config s l t) : t.platform = s.platform ∨
      ∃ l', l'.accepted formats = true ∧
        (CourierPlatform.platform config.env).next s.platform l' = some t.platform := by
  cases moves with
  | @calls request uuid batchId exchange body matched call platform of parsed found asks started =>
    exact .inr ⟨.start call, asks.accepted sound, started⟩
  | @ofPlatform l platform own moved =>
    refine .inr ⟨l, ?_, moved⟩
    cases l with
    | start request => cases request <;> first | rfl | contradiction
    | _ => rfl
  | _ => exact .inl rfl

theorem Moves.accounts_step {formats : Formats} (sound : config.validators.Sound formats)
    (moves : Moves config s l t) : t.accounts = s.accounts ∨
      ∃ l', l'.valid formats = true ∧
        (CourierPlatform.accounts config.login).next s.accounts l' = some t.accounts := by
  cases moves with
  | @registers request uuid batchId exchange body data accounts of parsed found validated started =>
    exact .inr ⟨.registrations (.register data), (sound.register body data validated).1, started⟩
  | @logsIn request uuid batchId exchange body data accounts of parsed found validated started =>
    exact .inr ⟨.login data, sound.login body data validated, started⟩
  | @ofAccounts l accounts own moved =>
    refine .inr ⟨l, ?_, moved⟩
    cases l with
    | registrations l => cases l <;> first | rfl | contradiction
    | login data => contradiction
    | settle => rfl
  | _ => exact .inl rfl

theorem reaches_platform {formats : Formats} (sound : config.validators.Sound formats)
    {allowed : Server → ServerLabel → Prop} (reach : (server config).Reaches allowed s t) :
    (CourierPlatform.platform config.env).Reaches (fun _ l => l.accepted formats = true)
      s.platform t.platform :=
  reach.view Server.platform fun _ _ _ _ _ moved => (Moves.of_next moved).platform_step sound

theorem reaches_accounts {formats : Formats} (sound : config.validators.Sound formats)
    {allowed : Server → ServerLabel → Prop} (reach : (server config).Reaches allowed s t) :
    (CourierPlatform.accounts config.login).Reaches (fun _ l => l.valid formats = true)
      s.accounts t.accounts :=
  reach.view Server.accounts fun _ _ _ _ _ moved => (Moves.of_next moved).accounts_step sound

end Server

/-- Behind the routes, the middleware and the controllers, the services see no more than calls whose
arguments conform to the schemas: a run of the server is one of the platform and one of the accounts. -/
theorem server_refines_services {config : ServerConfig} {formats : Formats} {w : World} {t : Server}
    (sound : config.validators.Sound formats)
    (reach : (server config).Reaches (fun _ _ => True) (.init w) t) :
    (platform config.env).Reaches (fun _ l => l.accepted formats = true) (.init w) t.platform ∧
      (accounts config.login).Reaches (fun _ l => l.valid formats = true) .init t.accounts :=
  ⟨Server.reaches_platform sound reach, Server.reaches_accounts sound reach⟩

theorem server_refines_services_sample : ∃ t : Server,
    (t.platform.tasks.length = 1 ∧ t.accounts.registrations.calls.length = 1) ∧
      (platform productionServer.env).Reaches
        (fun _ l => l.accepted Accounts.plainLogins.formats = true) (.init .empty) t.platform := by
  obtain ⟨t, reach, test⟩ := Machine.Reaches.of_run_any (server productionServer)
    (fun _ _ => True) (.init .empty)
    [.receive bookParcel "U-1" "B-1", .receive registerAnn "U-2" "B-2", .platform (.settle 0 .ok)]
    (fun t => t.platform.tasks.length = 1 && t.accounts.registrations.calls.length = 1) (by decide)
  simp only [Bool.and_eq_true, decide_eq_true_eq] at test
  exact ⟨t, test, (server_refines_services sampleValidators_sound reach).1⟩

end CourierPlatform
