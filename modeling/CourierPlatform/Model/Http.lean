import CourierPlatform.Model.ErrorHandler
import CourierPlatform.Model.Validation

/-! The HTTP side of the API: requests with the routes they match, the responses of the controllers and
of `errorHandler`, and the middleware that reads the headers. -/
namespace CourierPlatform
open Js

/-- A segment of a path: the text that stands there, and what `decodeURIComponent` makes of it. -/
structure PathSegment where
  text : String
  decoded : Except Thrown String

namespace PathSegment

def plain (text : String) : PathSegment := ⟨text, .ok text⟩

/-- The literal segments of a route match as they stand there, in any letter case. -/
def is (js : JsText) (literal : String) (segment : PathSegment) : Bool :=
  js.toLowerCase segment.text = literal

end PathSegment

/-- What the application reads of a request. `path` holds the segments of its path, `body` what the
parsers make of its body, which is an empty object where there is none. -/
structure HttpRequest where
  method : String
  originalUrl : String
  path : List PathSegment
  authorization : Option String := none
  xRequestId : Option String := none
  body : Except Thrown Json := .ok (.object [])

inductive Route where
  | createOrder
  | bulkCreateOrders
  | trackOrder (orderId : String)
  | cancelOrder (orderId : String)
  | getOrderById (orderId : String)
  | register
  | login
  | getProfile
  | listSupportedCouriers
  | healthCheck
deriving DecidableEq

/-- Whether a route that is declared with `get` takes the method: Express hands it `HEAD` as well. -/
def handlesGet (method : String) : Bool := method = "GET" || method = "HEAD"

section
variable (js : JsText) (method : String)

/-- A path that fits a route with a parameter is decoded before the method is looked at. -/
def orderRoutes : List PathSegment → Except Thrown (Option Route)
  | [] => .ok (if method = "POST" then some .createOrder else none)
  | [segment] =>
    if method = "POST" && segment.is js "bulk" then .ok (some .bulkCreateOrders)
    else
      segment.decoded.map fun orderId =>
        if handlesGet method then some (.getOrderById orderId) else none
  | [segment, action] =>
    if action.is js "track" then
      segment.decoded.map fun orderId =>
        if handlesGet method then some (.trackOrder orderId) else none
    else if action.is js "cancel" then
      segment.decoded.map fun orderId =>
        if method = "POST" then some (.cancelOrder orderId) else none
    else .ok none
  | _ => .ok none

def authRoutes : List PathSegment → Option Route
  | [action] =>
    if method = "POST" && action.is js "register" then some .register
    else if method = "POST" && action.is js "login" then some .login
    else if handlesGet method && action.is js "me" then some .getProfile
    else none
  | _ => none

def courierRoutes : List PathSegment → Option Route
  | [] => if handlesGet method then some .listSupportedCouriers else none
  | _ => none

def healthRoutes : List PathSegment → Option Route
  | [] => if handlesGet method then some .healthCheck else none
  | _ => none

def apiRoutes : List PathSegment → Except Thrown (Option Route)
  | resource :: path =>
    if resource.is js "orders" then orderRoutes js method path
    else if resource.is js "auth" then .ok (authRoutes js method path)
    else if resource.is js "couriers" then .ok (courierRoutes method path)
    else if resource.is js "health" then .ok (healthRoutes method path)
    else .ok none
  | [] => .ok none

/-- The routes of `createApp`; an error is what the decoding of a parameter throws. -/
def route : List PathSegment → Except Thrown (Option Route)
  | [health] =>
    .ok (if handlesGet method && health.is js "health" then some .healthCheck else none)
  | api :: v1 :: path =>
    if api.is js "api" && v1.is js "v1" then apiRoutes js method path else .ok none
  | _ => .ok none

end

section
variable (js : JsText) (path : List PathSegment) (matched : Route)

theorem orderRoutes_options : orderRoutes js "OPTIONS" path ≠ .ok (some matched) := by
  have undecoded (decoded : Except Thrown String) :
      decoded.map (fun _ => (none : Option Route)) ≠ .ok (some matched) := by
    cases decoded <;> simp [Except.map]
  match path with
  | [] => simp [orderRoutes]
  | [segment] => simpa [orderRoutes, handlesGet] using undecoded segment.decoded
  | [segment, action] =>
    by_cases track : action.is js "track" = true
    · simpa [orderRoutes, handlesGet, track] using undecoded segment.decoded
    · by_cases cancel : action.is js "cancel" = true
      · simpa [orderRoutes, track, cancel] using undecoded segment.decoded
      · simp [orderRoutes, track, cancel]
  | _ :: _ :: _ :: _ => simp [orderRoutes]

theorem apiRoutes_options : apiRoutes js "OPTIONS" path ≠ .ok (some matched) := by
  match path with
  | [] => simp [apiRoutes]
  | resource :: path =>
    have auth : authRoutes js "OPTIONS" path = none := by
      unfold authRoutes
      split <;> simp [handlesGet]
    have couriers : courierRoutes "OPTIONS" path = none := by
      unfold courierRoutes
      split <;> simp [handlesGet]
    have health : healthRoutes "OPTIONS" path = none := by
      unfold healthRoutes
      split <;> simp [handlesGet]
    by_cases orders : resource.is js "orders" = true
    · simpa [apiRoutes, orders] using orderRoutes_options js path matched
    · simp [apiRoutes, orders, auth, couriers, health]

theorem route_options : route js "OPTIONS" path ≠ .ok (some matched) := by
  match path with
  | [] => simp [route]
  | [health] => simp [route, handlesGet]
  | api :: v1 :: path =>
    by_cases mounted : (api.is js "api" && v1.is js "v1") = true
    · simpa [route, mounted] using apiRoutes_options js path matched
    · simp [route, mounted]

end

/-! ## Responses -/

/-- What `jwt.verify` makes of a token: the payload that was signed, with the times in seconds that
`jwt.sign` adds to it. -/
structure DecodedToken extends JwtUserPayload where
  iat : Int
  exp : Int

structure HealthData where
  status : String
  /-- In milliseconds. -/
  uptime : Int
  timestamp : Int
  databaseStatus : String
  databaseError : Option String
  activeCouriers : List String
  courierCount : Nat
  environment : String

inductive ResponseData where
  | createOrder (response : NormalizedCreateOrderResponse)
  | bulkOrder (response : BulkOrderResponse)
  | tracking (response : NormalizedTrackingResponse)
  | cancel (response : NormalizedCancelResponse)
  | order (order : Order) (trackingEvents : List TrackingEvent)
  | auth (result : AuthResult)
  | profile (user : Option DecodedToken)
  | couriers (supportedCouriers : List String) (total : Nat)
  | health (data : HealthData)

inductive ResponseBody where
  | success (data : ResponseData) (requestId : Option String) (timestamp : Int)
  | error (code message : String) (details : Option Json) (requestId : String) (timestamp : Int)
  | empty

/-- What is handed to Express; of the answer to a `HEAD` request only the head goes out. `xRequestId` is
the header `X-Request-Id`, if it was set. -/
structure HttpResponse where
  statusCode : Nat
  xRequestId : Option String
  body : ResponseBody

namespace HttpResponse

def preflight : HttpResponse := ⟨204, none, .empty⟩

def success (requestId : Option String) (now : Int) (statusCode : Nat) (data : ResponseData) :
    HttpResponse :=
  ⟨statusCode, requestId, .success data requestId now⟩

/-- `errorHandler`. The request has an id once `requestIdMiddleware` has run. -/
def failure (traits : ErrorTraits) (requestId : Option String) (now : Int) (err : Thrown) :
    HttpResponse :=
  let errorInfo := resolveErrorInfo traits err
  ⟨errorInfo.statusCode, requestId,
    .error errorInfo.errorCode errorInfo.message errorInfo.details (orDefault requestId "unknown-req")
      now⟩

end HttpResponse

/-! ## Middleware -/

/-- `requestIdMiddleware`: an id that the client sends is used, unless it is empty. -/
def HttpRequest.requestId (request : HttpRequest) (uuid : String) : String :=
  orDefault request.xRequestId uuid

inductive JwtFailure where
  | expired | invalid
deriving DecidableEq

def bearerToken (authorization : Option String) : Option String :=
  authorization.bind fun authHeader =>
    if "Bearer ".toList.isPrefixOf authHeader.toList then
      some (String.ofList ((authHeader.toList.drop 7).takeWhile (· ≠ ' ')))
    else none

abbrev JwtVerify := String → Int → Except JwtFailure DecodedToken

def authenticate (verify : JwtVerify) (now : Int) (authorization : Option String) :
    Except Thrown DecodedToken :=
  match bearerToken authorization with
  | none =>
    .error (unauthorizedError "Authentication token is missing. Format: Bearer <token>")
  | some token =>
    match verify token now with
    | .ok decoded => .ok decoded
    | .error .expired =>
      .error (unauthorizedError "Authentication token has expired. Please log in again.")
    | .error .invalid => .error (unauthorizedError "Invalid authentication token")

/-- A token that does not verify is ignored. -/
def optionalAuthenticate (verify : JwtVerify) (now : Int) (authorization : Option String) :
    Option DecodedToken :=
  (bearerToken authorization).bind fun token => (verify token now).toOption

end CourierPlatform
