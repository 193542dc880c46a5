import CourierPlatform.Proofs.AccountResults
import CourierPlatform.Proofs.CallSubjects
import CourierPlatform.Proofs.ServerMoves
import CourierPlatform.Spec.ServerRuns

/-! Every response is about what its own request names, and carries its id. -/
namespace CourierPlatform
open Js Library

variable {config : ServerConfig} {s t : Server} {l : ServerLabel}

/-! ## What an exchange awaits -/

namespace Server

def Pursues (config : ServerConfig) (s : Server) (body : Json) (matched : Route) : Awaited → Prop
  | .task i => ∃ call task, matched.Asks config.validators body call ∧
      s.platform.tasks[i]? = some task ∧ call.Concerns task
  | .registration i => matched = .register ∧ ∃ call,
      s.accounts.registrations.calls[i]? = some call ∧ config.validators.register body = .ok call.data
  | .login i => matched = .login ∧ ∃ call,
      s.accounts.logins[i]? = some call ∧ config.validators.login body = .ok call.data
  | .findOrder orderId => matched = .getOrderById orderId
  | .authenticate => matched = .healthCheck

structure Keeps (s t : Server) : Prop where
  tasks : ∀ (call : Request) (i : Nat) (task : Task), call.Concerns task →
    s.platform.tasks[i]? = some task → ∃ task', t.platform.tasks[i]? = some task' ∧ call.Concerns task'
  accounts : s.accounts.Keeps t.accounts

theorem Pursues.mono {body : Json} {matched : Route} {awaited : Awaited}
    (h : s.Pursues config body matched awaited) (kept : s.Keeps t) :
    t.Pursues config body matched awaited := by
  cases awaited with
  | task i =>
    obtain ⟨call, task, asks, here, concerns⟩ := h
    obtain ⟨task', there, concerns'⟩ := kept.tasks call i task concerns here
    exact ⟨call, task', asks, there, concerns'⟩
  | registration i =>
    obtain ⟨found, call, here, asked⟩ := h
    obtain ⟨call', there, same, -⟩ := kept.accounts.registrations i call here
    exact ⟨found, call', there, same ▸ asked⟩
  | login i =>
    obtain ⟨found, call, here, asked⟩ := h
    obtain ⟨call', there, same, -⟩ := kept.accounts.logins i call here
    exact ⟨found, call', there, same ▸ asked⟩
  | findOrder orderId => exact h
  | authenticate => exact h

theorem Moves.keeps_accounts (moves : Moves config s l t) (sound : s.accounts.Sound config.login) :
    s.accounts.Keeps t.accounts ∧ t.accounts.Sound config.login := by
  cases moves with
  | @registers request uuid batchId exchange body data accounts of parsed found validated started =>
    have moved : (CourierPlatform.accounts config.login).next s.accounts
        (.registrations (.register data)) = some accounts := started
    exact (sound.next moved).symm
  | @logsIn request uuid batchId exchange body data accounts of parsed found validated started =>
    have moved : (CourierPlatform.accounts config.login).next s.accounts (.login data) = some accounts :=
      started
    exact (sound.next moved).symm
  | ofAccounts isOwn moved => exact (sound.next moved).symm
  | _ => exact ⟨.refl _, sound⟩

theorem Moves.keeps (moves : Moves config s l t) (sound : s.accounts.Sound config.login)
    (own : s.repliesOwn l = true) : s.Keeps t := by
  refine ⟨fun other i task concerns here => ?_, (moves.keeps_accounts sound).1⟩
  cases moves with
  | @calls request uuid batchId exchange body matched call platform of parsed found asks started =>
    have moved : (CourierPlatform.platform config.env).next s.platform (.start call) = some platform :=
      started
    exact concerns.next here rfl moved
  | ofPlatform isOwn moved => exact concerns.next here own moved
  | _ => exact ⟨task, here, concerns⟩

end Server

/-! ## What comes of it -/

theorem Route.Asks.answered {request : HttpRequest} {body : Json} {matched : Route} {call : Request}
    {task : Task} {statusCode : Nat} {data : ResponseData}
    (asks : matched.Asks config.validators body call) (concerns : call.Concerns task)
    (ended : task.outcome? = some (.ok (statusCode, data))) :
    matched.Answered config request body statusCode data := by
  cases matched <;> cases call <;> try contradiction
  case createOrder.createOrder orderData =>
    cases task with
    | createOrder call => cases call <;> cases ended; exact ⟨rfl, orderData, asks, concerns⟩
    | crashed => contradiction
    | _ => exact concerns.elim
  case bulkCreateOrders.createBulkOrders orders batchId =>
    cases task with
    | createBulkOrders call => cases call <;> cases ended; exact ⟨rfl, orders, asks, concerns.2⟩
    | crashed => contradiction
    | _ => exact concerns.elim
  case trackOrder.trackOrder orderId own =>
    cases task with
    | trackOrder call => cases call <;> cases ended; exact ⟨rfl, concerns.trans asks⟩
    | crashed => contradiction
    | _ => exact concerns.elim
  case cancelOrder.cancelOrder orderId own reason =>
    cases task with
    | cancelOrder call => cases call <;> cases ended; exact ⟨rfl, concerns.trans asks.1⟩
    | crashed => contradiction
    | _ => exact concerns.elim

theorem authenticate_ok {verify : JwtVerify} {now : Int} {authorization : Option String}
    {user : DecodedToken} (h : authenticate verify now authorization = .ok user) :
    ∃ token, bearerToken authorization = some token ∧ verify token now = .ok user := by
  unfold authenticate at h
  split at h
  next => contradiction
  next token bears =>
    refine ⟨token, bears, ?_⟩
    split at h
    next decoded verified =>
      cases h
      exact verified
    next => contradiction
    next => contradiction

theorem AuthService.Grants.email {users : UserTable} {email : String} {result : AuthResult}
    (h : AuthService.Grants config.login.toAuthConfig users email result) :
    result.user.email = config.login.js.toLowerCase email := by
  obtain ⟨user, issuedAt, found, rfl⟩ := h
  have same : user.email = config.login.js.toLowerCase email := UniqueTable.key_of_find? found
  exact same

theorem Server.findOrder_ok {w : World} {orderId : String} {trackingEvents : List TrackingEvent}
    {statusCode : Nat} {data : ResponseData}
    (h : findOrder w orderId trackingEvents = some (.ok (statusCode, data))) :
    ∃ order, w.findOne orderId = some order ∧ statusCode = 200 ∧ data = .order order trackingEvents ∧
      trackingEvents.Perm (w.events.filter fun event => event.orderId = orderId) := by
  unfold findOrder at h
  split at h
  next order found =>
    split at h
    next own =>
      cases h
      exact ⟨order, found, rfl, rfl, World.findOne_orderId found ▸ own⟩
    next => contradiction
  next => cases h

namespace Server

theorem Pursues.answered {request : HttpRequest} {body : Json} {matched : Route} {awaited : Awaited}
    {statusCode : Nat} {data : ResponseData} (pursues : s.Pursues config body matched awaited)
    (sound : s.accounts.Sound config.login)
    (ended : s.outcome? awaited = some (.ok (statusCode, data))) :
    matched.Answered config request body statusCode data := by
  cases awaited with
  | task i =>
    obtain ⟨call, task, asks, here, concerns⟩ := pursues
    simp only [outcome?, here, Option.bind_some] at ended
    exact asks.answered concerns ended
  | registration i =>
    obtain ⟨rfl, call, here, asked⟩ := pursues
    simp only [outcome?, here, Option.bind_some] at ended
    cases stage : call.stage <;> rw [stage] at ended <;> cases ended
    have granted := sound.registrations call (List.mem_of_getElem? here) _ stage
    exact ⟨rfl, call.data, asked, granted.email⟩
  | login i =>
    obtain ⟨rfl, call, here, asked⟩ := pursues
    simp only [outcome?, here, Option.bind_some] at ended
    cases stage : call.stage <;> rw [stage] at ended <;> cases ended
    have granted := (sound.logins call (List.mem_of_getElem? here)).result _ stage
    exact ⟨rfl, call.data, asked, granted.email⟩
  | findOrder orderId => contradiction
  | authenticate => contradiction

theorem Pursues.queried {request : HttpRequest} {body : Json} {matched : Route} {awaited : Awaited}
    {answer : QueryAnswer} {statusCode : Nat} {data : ResponseData}
    (pursues : s.Pursues config body matched awaited)
    (ended : s.queried config awaited answer = some (.ok (statusCode, data))) :
    matched.Answered config request body statusCode data := by
  cases awaited with
  | findOrder orderId =>
    cases pursues
    cases answer with
    | found trackingEvents =>
      obtain ⟨order, found, rfl, rfl, own⟩ := findOrder_ok ended
      refine ⟨rfl, World.findOne_orderId found, fun event mem => ?_⟩
      exact of_decide_eq_true (List.mem_filter.mp (own.mem_iff.mp mem)).2
    | _ => cases ended
  | authenticate =>
    cases pursues
    cases answer with
    | ok =>
      cases ended
      exact .inl ⟨rfl, rfl, rfl⟩
    | dbError error =>
      cases ended
      exact .inr ⟨rfl, rfl⟩
    | _ => cases ended
  | _ => cases answer <;> cases ended

theorem reply_fits {request : HttpRequest} {requestId : Option String}
    {outcome : Except Thrown (Nat × ResponseData)}
    (right : ∀ statusCode data, outcome = .ok (statusCode, data) →
      request.AnsweredWith config statusCode data) :
    (s.reply config requestId outcome).Fits config request requestId := by
  cases outcome with
  | ok result => exact ⟨rfl, rfl, right result.1 result.2 rfl⟩
  | error err => exact ⟨rfl, rfl⟩

end Server

/-! ## Exchanges -/

structure Exchange.Sound (config : ServerConfig) (s : Server) (exchange : Exchange) : Prop where
  requestId : exchange.requestId.isSome = exchange.request.getsId
  sent : ∀ id ∈ exchange.requestId, ∀ own ∈ exchange.request.xRequestId, own ≠ "" → id = own
  awaits : ∀ awaited ∈ exchange.awaited, ∃ body matched, exchange.request.body = .ok body ∧
    route config.env.js exchange.request.method exchange.request.path = .ok (some matched) ∧
    s.Pursues config body matched awaited
  response : ∀ response ∈ exchange.response,
    response.Fits config exchange.request exchange.requestId

namespace Exchange

theorem Sound.mono {exchange : Exchange} (h : exchange.Sound config s) (kept : s.Keeps t) :
    exchange.Sound config t := by
  refine ⟨h.requestId, h.sent, fun awaited mem => ?_, h.response⟩
  obtain ⟨body, matched, parsed, found, pursues⟩ := h.awaits awaited mem
  exact ⟨body, matched, parsed, found, pursues.mono kept⟩

theorem Of.requestId_isSome {request : HttpRequest} {uuid : String} {exchange : Exchange}
    (of : exchange.Of request uuid) :
    exchange.requestId.isSome = exchange.request.getsId := by
  rw [of.requestId, of.request, Option.isSome_map, HttpRequest.getsId]
  simp [of.method]

theorem Of.sent {request : HttpRequest} {uuid : String} {exchange : Exchange}
    (of : exchange.Of request uuid) :
    ∀ id ∈ exchange.requestId, ∀ own ∈ exchange.request.xRequestId, own ≠ "" → id = own := by
  intro id mem own sent nonempty
  rw [of.requestId] at mem
  rw [of.request] at sent
  obtain ⟨body, -, rfl⟩ := Option.map_eq_some_iff.mp mem
  simp [HttpRequest.requestId, orDefault, Option.mem_def.mp sent, nonempty]

theorem Of.sound {request : HttpRequest} {uuid : String} {exchange : Exchange} {awaited : Awaited}
    {body : Json} {matched : Route} (of : exchange.Of request uuid) (parsed : request.body = .ok body)
    (found : route config.env.js request.method request.path = .ok (some matched))
    (pursues : s.Pursues config body matched awaited) :
    Exchange.Sound config s { exchange with awaited := some awaited } := by
  refine ⟨of.requestId_isSome, of.sent, ?_, fun response mem => ?_⟩
  · rintro _ ⟨⟩
    exact ⟨body, matched, of.request ▸ parsed, of.request ▸ found, pursues⟩
  · rw [of.response] at mem
    contradiction

end Exchange

namespace Server

structure Sound (config : ServerConfig) (s : Server) : Prop where
  accounts : s.accounts.Sound config.login
  exchanges : ∀ exchange ∈ s.exchanges, exchange.Sound config s

theorem Sound.init (config : ServerConfig) (w : World) : (init w).Sound config :=
  ⟨.init config.login, fun _ mem => absurd mem List.not_mem_nil⟩

theorem Sound.concat {exchange : Exchange} (h : s.Sound config) (kept : s.Keeps t)
    (accounts : t.accounts.Sound config.login) (appended : t.exchanges = s.exchanges ++ [exchange])
    (sound : exchange.Sound config t) : t.Sound config := by
  refine ⟨accounts, fun other mem => ?_⟩
  rw [appended] at mem
  rcases List.mem_append.mp mem with earlier | new
  · exact (h.exchanges other earlier).mono kept
  · rw [List.mem_singleton.mp new]
    exact sound

theorem Sound.answer {request : HttpRequest} {uuid : String} {exchange : Exchange}
    {outcome : Except Thrown (Nat × ResponseData)} (h : s.Sound config) (of : exchange.Of request uuid)
    (right : ∀ statusCode data, outcome = .ok (statusCode, data) →
      request.AnsweredWith config statusCode data) :
    (s.answer config exchange outcome).Sound config := by
  have kept : s.Keeps (s.answer config exchange outcome) :=
    ⟨fun _ _ task concerns here => ⟨task, here, concerns⟩, .refl _⟩
  refine h.concat kept h.accounts rfl
    ⟨of.requestId_isSome, of.sent, fun awaited mem => ?_, ?_⟩
  · change awaited ∈ exchange.awaited at mem
    rw [of.awaited] at mem
    contradiction
  · rintro _ ⟨⟩
    exact reply_fits (of.request ▸ right)

theorem Sound.next (h : s.Sound config) (own : s.repliesOwn l = true)
    (moved : (server config).next s l = some t) : t.Sound config := by
  have moves := Moves.of_next moved
  have kept := moves.keeps h.accounts own
  obtain ⟨-, accounts⟩ := moves.keeps_accounts h.accounts
  cases moves with
  | preflight options =>
    refine h.concat kept accounts rfl ⟨?_, ?_, ?_, ?_⟩
    · simp [HttpRequest.getsId, options]
    · rintro id ⟨⟩
    · rintro awaited ⟨⟩
    · rintro response ⟨⟩
      exact ⟨rfl, options, rfl⟩
  | refused of err => exact h.answer of fun _ _ same => nomatch same
  | @profile request uuid batchId exchange body user of parsed found verified =>
    obtain ⟨token, bears, valid⟩ := authenticate_ok verified
    refine h.answer of ?_
    rintro _ _ ⟨⟩
    exact ⟨body, _, parsed, found, rfl, token, s.now, user, bears, valid, rfl⟩
  | couriers of parsed found listed =>
    refine h.answer of ?_
    rintro _ _ ⟨⟩
    exact ⟨_, _, parsed, found, rfl, listed, rfl⟩
  | @queries request uuid batchId exchange body matched awaited of parsed found query =>
    refine h.concat kept accounts rfl (of.sound parsed found ?_)
    rcases query with ⟨orderId, rfl, rfl⟩ | ⟨rfl, rfl⟩ <;> rfl
  | @calls request uuid batchId exchange body matched call platform of parsed found asks started =>
    refine h.concat kept accounts rfl (of.sound parsed found ?_)
    cases Option.some.inj started
    refine ⟨call, _, asks, List.getElem?_concat_length, Request.concerns_start _ _ ?_⟩
    cases call <;> cases matched <;> first | rfl | exact asks.elim
  | @registers request uuid batchId exchange body data after of parsed found validated started =>
    refine h.concat kept accounts rfl (of.sound parsed found ⟨rfl, ⟨data, .findOne⟩, ?_, validated⟩)
    cases Option.some.inj started
    exact List.getElem?_concat_length
  | @logsIn request uuid batchId exchange body data after of parsed found validated started =>
    refine h.concat kept accounts rfl (of.sound parsed found ⟨rfl, ⟨data, .findOne⟩, ?_, validated⟩)
    cases Option.some.inj started
    exact List.getElem?_concat_length
  | @sent _ k exchange awaited outcome here awaits unanswered ended =>
    refine ⟨accounts, fun other mem => ?_⟩
    rcases List.mem_or_eq_of_mem_set mem with earlier | rfl
    · exact (h.exchanges other earlier).mono kept
    have before := h.exchanges exchange (List.mem_of_getElem? here)
    refine ⟨before.requestId, before.sent, (before.mono kept).awaits, ?_⟩
    rintro _ ⟨⟩
    obtain ⟨body, matched, parsed, found, pursues⟩ := before.awaits awaited awaits
    refine reply_fits fun statusCode data same => ⟨body, matched, parsed, found, ?_⟩
    subst same
    rcases ended with ⟨answer, -, ended⟩ | ⟨-, ended⟩
    · exact pursues.queried ended
    · exact pursues.answered h.accounts ended
  | ofPlatform isOwn moved => exact ⟨accounts, fun exchange mem => (h.exchanges exchange mem).mono kept⟩
  | ofAccounts isOwn moved => exact ⟨accounts, fun exchange mem => (h.exchanges exchange mem).mono kept⟩

end Server

/-- Whatever else is going on, a response that is a success is of the kind and about the subject that its
own request asks for; and a response carries in its header and in its body the id of its own request,
the one that the client has sent if it has sent one, or none if the body could not be read. -/
theorem responses_answer_requests {w : World} {k : Nat} {exchange : Exchange} {response : HttpResponse}
    (reach : (server config).Reaches (fun s l => s.repliesOwn l = true) (.init w) t)
    (here : t.exchanges[k]? = some exchange) (answered : exchange.response = some response) :
    response.Fits config exchange.request exchange.requestId ∧
      exchange.requestId.isSome = exchange.request.getsId ∧
      ∀ id ∈ exchange.requestId, ∀ own ∈ exchange.request.xRequestId, own ≠ "" → id = own := by
  have sound : t.Sound config := by
    refine reach.invariant (Server.Sound config) (.init config w) ?_
    intro a l b inv own moved
    exact inv.next own moved
  have known := sound.exchanges exchange (List.mem_of_getElem? here)
  exact ⟨known.response response answered, known.requestId, known.sent⟩

theorem responses_answer_requests_booked :
    ∃ (request : HttpRequest) (response : HttpResponse), response.statusCode = 201 ∧
      response.Fits productionServer request (some "R-1") := by
  obtain ⟨t, reach, test⟩ := Machine.Reaches.of_run_any (server productionServer)
    (fun s l => s.repliesOwn l = true) (.init .empty)
    [.receive bookParcel "U-1" "B-1", .platform (.settle 0 .ok), .platform (.settle 0 .ok),
      .platform (.settle 0 (.booked (bookingReply (parcel "A-1" "mock") "MCK1"))),
      .platform (.settle 0 .ok), .respond 0]
    (fun t => t.exchanges[0]?.any fun exchange =>
      exchange.requestId = some "R-1" && exchange.response.any (·.statusCode = 201)) (by decide)
  obtain ⟨exchange, here, seen⟩ := (Option.any_eq_true _ _).mp test
  obtain ⟨identified, sent⟩ := Bool.and_eq_true_iff.mp seen
  obtain ⟨response, answered, status⟩ := (Option.any_eq_true _ _).mp sent
  obtain ⟨fits, -⟩ := responses_answer_requests reach here answered
  rw [of_decide_eq_true identified] at fits
  exact ⟨exchange.request, response, of_decide_eq_true status, fits⟩

end CourierPlatform
