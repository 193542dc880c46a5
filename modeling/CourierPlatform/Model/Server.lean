import CourierPlatform.Model.Http
import CourierPlatform.Model.System

/-! The API server: the middleware chain of `createApp`, the controllers, and the responses they send
once what they await has settled. The calls of the services run on the platform and on the accounts. -/
namespace CourierPlatform
open Js Library

structure ServerConfig where
  env : Env
  login : LoginConfig
  validators : Validators
  traits : ErrorTraits
  verify : JwtVerify
  startedAt : Int
  nodeEnv : Option String

inductive Awaited where
  /-- A call of the order services, by its number on the platform. -/
  | task (i : Nat)
  | registration (i : Nat)
  | login (i : Nat)
  /-- `Order.findOne` of `getOrderById`. -/
  | findOrder (orderId : String)
  /-- `sequelize.authenticate` of `healthCheck`. -/
  | authenticate

structure Exchange where
  request : HttpRequest
  requestId : Option String := none
  user : Option DecodedToken := none
  awaited : Option Awaited := none
  response : Option HttpResponse := none

structure Server where
  platform : State
  accounts : Accounts
  exchanges : List Exchange := []

/-- How a query settles that a handler awaits itself. The database is free in the order in which it
brings the events of an order. -/
inductive QueryAnswer where
  | ok
  | found (trackingEvents : List TrackingEvent)
  | dbError (error : Thrown)

inductive ServerLabel where
  /-- A request comes in and is handled up to the first await; the ids are fresh. -/
  | receive (request : HttpRequest) (uuid batchId : String)
  /-- A database query of exchange `k` that is no call of a service settles. -/
  | query (k : Nat) (answer : QueryAnswer)
  /-- The call that exchange `k` awaits has settled. -/
  | respond (k : Nat)
  | platform (l : Label)
  | accounts (l : AccountsLabel)

/-- Requests to the platform other than those of the worker come in over HTTP. -/
def Label.isOwn : Label → Bool
  | start .reconcilePendingOrders => true
  | start _ => false
  | _ => true

def AccountsLabel.isOwn : AccountsLabel → Bool
  | registrations (.register _) => false
  | login _ => false
  | _ => true

/-- The status code and the data of a call that has resolved, or what it has rejected with. -/
def Task.outcome? : Task → Option (Except Thrown (Nat × ResponseData))
  | createOrder (.resolved response) => some (.ok (201, .createOrder response))
  | createOrder (.rejected error) => some (.error error)
  | createBulkOrders (.resolved response) => some (.ok (207, .bulkOrder response))
  | createBulkOrders (.rejected error) => some (.error error)
  | trackOrder (.resolved response) => some (.ok (200, .tracking response))
  | trackOrder (.rejected error) => some (.error error)
  | cancelOrder (.resolved response) => some (.ok (200, .cancel response))
  | cancelOrder (.rejected error) => some (.error error)
  | _ => none

def RegisterStage.outcome? : RegisterStage → Option (Except Thrown (Nat × ResponseData))
  | resolved result => some (.ok (201, .auth result))
  | rejected error => some (.error error)
  | _ => none

def LoginStage.outcome? : LoginStage → Option (Except Thrown (Nat × ResponseData))
  | resolved result => some (.ok (200, .auth result))
  | rejected error => some (.error error)
  | _ => none

namespace Server

variable (config : ServerConfig) (s : Server)

def init (w : World) : Server := ⟨.init w, .init, []⟩

def now : Int := s.platform.world.now

def reply (requestId : Option String) : Except Thrown (Nat × ResponseData) → HttpResponse
  | .ok (statusCode, data) => .success requestId s.now statusCode data
  | .error err => .failure config.traits requestId s.now err

def answer (exchange : Exchange) (outcome : Except Thrown (Nat × ResponseData)) : Server :=
  { s with
    exchanges := s.exchanges ++
      [{ exchange with response := some (s.reply config exchange.requestId outcome) }] }

def await (exchange : Exchange) (awaited : Awaited) : Server :=
  { s with exchanges := s.exchanges ++ [{ exchange with awaited := some awaited }] }

def callService (exchange : Exchange) (request : Request) : Option Server :=
  (State.next config.env s.platform (.start request)).map fun platform =>
    { s.await exchange (.task s.platform.tasks.length) with platform }

def callRegister (exchange : Exchange) (data : RegisterRequest) : Option Server :=
  (s.accounts.next config.login (.registrations (.register data))).map fun accounts =>
    { s.await exchange (.registration s.accounts.registrations.calls.length) with accounts }

def callLogin (exchange : Exchange) (data : LoginRequest) : Option Server :=
  (s.accounts.next config.login (.login data)).map fun accounts =>
    { s.await exchange (.login s.accounts.logins.length) with accounts }

def validated {α : Type} (validateFn : ValidateFunction α) (exchange : Exchange) (body : Json)
    (handler : α → Option Server) : Option Server :=
  match validateData validateFn body with
  | .ok data => handler data
  | .error err => some (s.answer config exchange (.error err))

def healthData (err : Option Thrown) : HealthData :=
  let couriers := config.env.registry.getSupportedCouriers
  { status := if err.isNone then "OK" else "DEGRADED"
    uptime := s.now - config.startedAt
    timestamp := s.now
    databaseStatus := if err.isNone then "healthy" else "unhealthy"
    databaseError := orNull (err.map Thrown.message)
    activeCouriers := couriers
    courierCount := couriers.length
    environment := orDefault config.nodeEnv "development" }

def handle (exchange : Exchange) (body : Json) (batchId : String) : Route → Option Server
  | .createOrder =>
    s.validated config config.validators.createOrder (withUser exchange) body fun orderData =>
      s.callService config (withUser exchange) (.createOrder orderData)
  | .bulkCreateOrders =>
    s.validated config config.validators.bulkCreateOrder (withUser exchange) body fun orders =>
      s.callService config (withUser exchange) (.createBulkOrders orders batchId)
  | .trackOrder orderId => s.callService config (withUser exchange) (.trackOrder orderId)
  | .cancelOrder orderId =>
    s.validated config config.validators.cancelOrder (withUser exchange) body fun reason =>
      s.callService config (withUser exchange) (.cancelOrder orderId reason)
  | .getOrderById orderId => some (s.await (withUser exchange) (.findOrder orderId))
  | .register =>
    s.validated config config.validators.register exchange body fun data =>
      s.callRegister config exchange data
  | .login =>
    s.validated config config.validators.login exchange body fun data =>
      s.callLogin config exchange data
  | .getProfile =>
    match authenticate config.verify s.now exchange.request.authorization with
    | .ok user => some (s.answer config { exchange with user := some user }
        (.ok (200, .profile (some user))))
    | .error err => some (s.answer config exchange (.error err))
  | .listSupportedCouriers =>
    let couriers := config.env.registry.getSupportedCouriers
    some (s.answer config exchange (.ok (200, .couriers couriers couriers.length)))
  | .healthCheck => some (s.await exchange .authenticate)
where
  /-- `optionalAuthenticate`, which the order routes use. -/
  withUser (exchange : Exchange) : Exchange :=
    { exchange with
      user := optionalAuthenticate config.verify s.now exchange.request.authorization }

/-- The middleware chain: `cors`, the parsers, the request id, the routes, and the handler of unmatched
ones. -/
def receive (request : HttpRequest) (uuid batchId : String) : Option Server :=
  if request.method = "OPTIONS" then
    some { s with exchanges := s.exchanges ++ [{ request, response := some .preflight }] }
  else
    match request.body with
    | .error err => some (s.answer config { request } (.error err))
    | .ok body =>
      let exchange : Exchange := { request, requestId := some (request.requestId uuid) }
      match route config.env.js request.method request.path with
      | .ok (some matched) => s.handle config exchange body batchId matched
      | .ok none => some (s.answer config exchange (.error (notFoundError
          ("Route " ++ request.method ++ " " ++ request.originalUrl ++ " not found")
          .resourceNotFound)))
      | .error err => some (s.answer config exchange (.error err))

/-- `getOrderById`: the row together with its events. -/
def findOrder (w : World) (orderId : String) (trackingEvents : List TrackingEvent) :
    Option (Except Thrown (Nat × ResponseData)) :=
  match w.findOne orderId with
  | some order =>
    if trackingEvents.Perm (w.events.filter fun event => event.orderId = order.orderId) then
      some (.ok (200, .order order trackingEvents))
    else none
  | none =>
    some (.error (notFoundError ("Order with ID '" ++ orderId ++ "' not found") .orderNotFound))

def queried : Awaited → QueryAnswer → Option (Except Thrown (Nat × ResponseData))
  | .findOrder orderId, .found trackingEvents => findOrder s.platform.world orderId trackingEvents
  | .findOrder _, .dbError error => some (.error error)
  | .authenticate, .ok => some (.ok (200, .health (s.healthData config none)))
  | .authenticate, .dbError error => some (.ok (503, .health (s.healthData config (some error))))
  | _, _ => none

def outcome? : Awaited → Option (Except Thrown (Nat × ResponseData))
  | .task i => (s.platform.tasks[i]?).bind Task.outcome?
  | .registration i => (s.accounts.registrations.calls[i]?).bind fun call => call.stage.outcome?
  | .login i => (s.accounts.logins[i]?).bind fun call => call.stage.outcome?
  | _ => none

def send (k : Nat) (outcome : Awaited → Option (Except Thrown (Nat × ResponseData))) :
    Option Server :=
  match s.exchanges[k]? with
  | some exchange =>
    match exchange.awaited, exchange.response with
    | some awaited, none =>
      (outcome awaited).map fun outcome =>
        { s with
          exchanges := s.exchanges.set k
            { exchange with response := some (s.reply config exchange.requestId outcome) } }
    | _, _ => none
  | none => none

def next : ServerLabel → Option Server
  | .receive request uuid batchId => s.receive config request uuid batchId
  | .query k answer => s.send config k fun awaited => s.queried config awaited answer
  | .respond k => s.send config k s.outcome?
  | .platform l =>
    if l.isOwn then (State.next config.env s.platform l).map fun platform => { s with platform }
    else none
  | .accounts l =>
    if l.isOwn then (s.accounts.next config.login l).map fun accounts => { s with accounts }
    else none

end Server

def server (config : ServerConfig) : Machine Server ServerLabel := ⟨Server.next config⟩

end CourierPlatform
