import CourierPlatform.Model.Server

/-! What a request over HTTP asks for, and which responses answer it. -/
namespace CourierPlatform
open Js

def CreateOrder.Concerns (orderData : NormalizedCreateOrderRequest) : CreateOrder → Prop
  | findOne own => own = orderData
  | updateExisting own _ => own = orderData
  | createRow own => own = orderData
  | createShipment own _ _ => own = orderData
  | updateFailed own _ _ => own = orderData
  | saveUpdate _ courierResponse _ => courierResponse.orderId = orderData.orderId
  | saveEvent _ courierResponse _ => courierResponse.orderId = orderData.orderId
  | resolved response => response.orderId = orderData.orderId
  | rejected _ => True

def TrackOrder.Concerns (orderId : String) : TrackOrder → Prop
  | fetchOrder own => own = orderId
  | trackShipment order _ _ => order.orderId = orderId
  | updateStatus _ trackingResponse => trackingResponse.orderId = orderId
  | findEvent _ trackingResponse _ _ => trackingResponse.orderId = orderId
  | createEvent _ trackingResponse _ _ => trackingResponse.orderId = orderId
  | resolved response => response.orderId = orderId
  | rejected _ => True

def CancelOrder.Concerns (orderId : String) : CancelOrder → Prop
  | fetchOrder own _ => own = orderId
  | cancelShipment order _ _ => order.orderId = orderId
  | updateCancelled _ cancelResponse _ => cancelResponse.orderId = orderId
  | createEvent _ cancelResponse _ => cancelResponse.orderId = orderId
  | resolved response => response.orderId = orderId
  | rejected _ => True

def resultsName (orders : List NormalizedCreateOrderRequest) (results : List BulkOrderItemResult) :
    Prop :=
  results.map (fun result => (result.orderId, result.courierPartner)) =
    orders.map fun orderItem => (orderItem.orderId, orderItem.courierPartner)

def BulkOrder.Concerns (orders : List NormalizedCreateOrderRequest) (batchId : String) : BulkOrder → Prop
  | initBatchRecord own items => own = batchId ∧ items = orders
  | prePersistAll own items => own = batchId ∧ items = orders
  | executing own items _ => own = batchId ∧ items = orders
  | updateBatchRecord own items results => own = batchId ∧ items = orders ∧ resultsName orders results
  | resolved response =>
    response.batchId = batchId ∧ response.totalOrders = orders.length ∧
      resultsName orders response.results
  | rejected _ => True

/-- A call the platform makes for the request, at any of its awaits, or what is left of it. -/
def Request.Concerns : Request → Task → Prop
  | createOrder orderData, .createOrder call => call.Concerns orderData
  | createBulkOrders orders batchId, .createBulkOrders call => call.Concerns orders batchId
  | trackOrder orderId, .trackOrder call => call.Concerns orderId
  | cancelOrder orderId _, .cancelOrder call => call.Concerns orderId
  | _, .crashed => True
  | _, _ => False

/-- The reply of an adapter is about the order that it was asked about. -/
def Task.repliesOwn : Task → Answer → Bool
  | createOrder (.createShipment orderData _ _), .booked reply => reply.orderId = orderData.orderId
  | trackOrder (.trackShipment order _ _), .tracked reply => reply.orderId = order.orderId
  | cancelOrder (.cancelShipment order _ _), .cancelled reply => reply.orderId = order.orderId
  | _, _ => true

def State.repliesOwn (s : State) : Label → Bool
  | .settle i answer => s.tasks[i]?.all (·.repliesOwn answer)
  | _ => true

/-! ## Routes -/

def Route.Asks (validators : Validators) (body : Json) : Route → Request → Prop
  | createOrder, .createOrder orderData => validators.createOrder body = .ok orderData
  | bulkCreateOrders, .createBulkOrders orders _ => validators.bulkCreateOrder body = .ok orders
  | trackOrder orderId, .trackOrder own => own = orderId
  | cancelOrder orderId, .cancelOrder own reason =>
    own = orderId ∧ validators.cancelOrder body = .ok reason
  | _, _ => False

def Route.Answered (config : ServerConfig) (request : HttpRequest) (body : Json) (statusCode : Nat) :
    Route → ResponseData → Prop
  | createOrder, .createOrder response =>
    statusCode = 201 ∧ ∃ orderData, config.validators.createOrder body = .ok orderData ∧
      response.orderId = orderData.orderId
  | bulkCreateOrders, .bulkOrder response =>
    statusCode = 207 ∧ ∃ orders, config.validators.bulkCreateOrder body = .ok orders ∧
      response.totalOrders = orders.length ∧ resultsName orders response.results
  | trackOrder orderId, .tracking response => statusCode = 200 ∧ response.orderId = orderId
  | cancelOrder orderId, .cancel response => statusCode = 200 ∧ response.orderId = orderId
  | getOrderById orderId, .order order trackingEvents =>
    statusCode = 200 ∧ order.orderId = orderId ∧ ∀ event ∈ trackingEvents, event.orderId = orderId
  | register, .auth result =>
    statusCode = 201 ∧ ∃ data, config.validators.register body = .ok data ∧
      result.user.email = config.login.js.toLowerCase data.email
  | login, .auth result =>
    statusCode = 200 ∧ ∃ data, config.validators.login body = .ok data ∧
      result.user.email = config.login.js.toLowerCase data.email
  | getProfile, .profile user =>
    statusCode = 200 ∧ ∃ token now decoded, bearerToken request.authorization = some token ∧
      config.verify token now = .ok decoded ∧ user = some decoded
  | listSupportedCouriers, .couriers supportedCouriers total =>
    statusCode = 200 ∧ supportedCouriers = config.env.registry.getSupportedCouriers ∧
      total = supportedCouriers.length
  | healthCheck, .health data =>
    statusCode = 200 ∧ data.status = "OK" ∧ data.databaseError = none ∨
      statusCode = 503 ∧ data.status = "DEGRADED"
  | _, _ => False

/-- The request has a body that could be read and a route, and this is what the route promises. -/
def HttpRequest.AnsweredWith (config : ServerConfig) (request : HttpRequest) (statusCode : Nat)
    (data : ResponseData) : Prop :=
  ∃ body matched, request.body = .ok body ∧
    route config.env.js request.method request.path = .ok (some matched) ∧
    matched.Answered config request body statusCode data

/-- The request gets as far as `requestIdMiddleware`: `cors` does not answer it, and its body can be
read. -/
def HttpRequest.getsId (request : HttpRequest) : Bool :=
  request.method ≠ "OPTIONS" && request.body.toOption.isSome

/-- An error carries the id of the request, if it has got one. -/
def ResponseBody.Fits (config : ServerConfig) (request : HttpRequest) (requestId : Option String)
    (statusCode : Nat) : ResponseBody → Prop
  | success data id _ => id = requestId ∧ request.AnsweredWith config statusCode data
  | error _ _ _ id _ => id = orDefault requestId "unknown-req"
  | empty => request.method = "OPTIONS" ∧ statusCode = 204

structure HttpResponse.Fits (config : ServerConfig) (request : HttpRequest) (requestId : Option String)
    (response : HttpResponse) : Prop where
  header : response.xRequestId = requestId
  body : response.body.Fits config request requestId response.statusCode

def ResponseBody.auth? : ResponseBody → Option AuthResult
  | success (.auth result) _ _ => some result
  | _ => none

def Server.repliesOwn (s : Server) : ServerLabel → Bool
  | .platform l => s.platform.repliesOwn l
  | _ => true

end CourierPlatform
