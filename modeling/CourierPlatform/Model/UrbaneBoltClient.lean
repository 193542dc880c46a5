import CourierPlatform.Model.Retry
import CourierPlatform.Model.Tables
import CourierPlatform.Model.UrbaneBoltMapper

/-! `UrbaneBoltClient`, and the adapter's `createShipment` over it. One call runs against a script of
what the cache, the token endpoint and the courier answer it, which may be any. -/
namespace CourierPlatform
open Js

inductive HttpMethod where
  | get | post | put | delete | patch
deriving DecidableEq

structure ApiRequest where
  method : HttpMethod
  url : String
  data : Option Json := none
  params : Option (List (String × Json)) := none

structure AxiosError where
  code : Option String := none
  message : String
  /-- Status and body, if there was a response. -/
  response : Option (Nat × Json) := none

namespace AxiosError

def status? (error : AxiosError) : Option Nat := error.response.map Prod.fst

def data? (error : AxiosError) : Option Json := error.response.map Prod.snd

/-- `status === 401 || status === 403` -/
def isAuthFailure (error : AxiosError) : Bool :=
  error.status? = some 401 || error.status? = some 403

/-- `status && status >= 400 && status < 500` -/
def isClientError (error : AxiosError) : Bool :=
  error.status?.any fun status => 400 ≤ status && status < 500

end AxiosError

inductive HttpOutcome where
  | reply (data : Json)
  | axiosError (error : AxiosError)
  /-- An `Error` that is no `AxiosError`. -/
  | exception (message : String)

/-- How the `POST` to `/auth/getToken/` settles; a failure may carry the body of a response. -/
inductive TokenOutcome where
  | reply (data : Json)
  | failed (responseData : Option Json)

/-- What the client does towards the outside. An outcome is missing while there is no reply. -/
inductive ClientEvent where
  | cacheGet (cachedToken : Option String)
  | cacheSet (token : String)
  | cacheDel
  /-- `getAuthToken(true)` is called. -/
  | forceRefresh
  | tokenRequest (outcome : Option TokenOutcome)
  | businessRequest (request : ApiRequest) (token : String) (outcome : Option HttpOutcome)
  | sleep (attempt : Nat) (delayMs : Rat)

/-- The latest event first. -/
abbrev ClientState := List ClientEvent

namespace ClientEvent

@[simp] def isBusinessRequest : ClientEvent → Bool
  | businessRequest .. => true
  | _ => false

@[simp] def isForceRefresh : ClientEvent → Bool
  | forceRefresh => true
  | _ => false

end ClientEvent

def ClientState.issued (s : ClientState) : Nat := s.countP ClientEvent.isBusinessRequest

def ClientState.refreshes (s : ClientState) : Nat := s.countP ClientEvent.isForceRefresh

/-- What the outside answers one call, by the number of business requests the call has issued before.
A promise without an outcome stays pending. A fetch of another call that is under way answers
like one of this call's own. -/
structure CourierScript where
  cached : Nat → Option String
  /-- The token fetch when nothing is cached. -/
  fetched : Nat → Option TokenOutcome
  /-- The token fetch of a forced refresh. -/
  refreshed : Nat → Option TokenOutcome
  business : Nat → Option HttpOutcome
  random : Nat → Rat

structure ClientConfig where
  retryAttempts : Int
  retryDelayMs : Rat

@[simp] def courierError (message : String) (errorCode : ErrorCode) (statusCode : Nat)
    (rawCourierResponse : Option Json) (isRetryable : Bool := false) : Thrown :=
  .courierError message "urbanebolt" errorCode statusCode rawCourierResponse isRetryable

/-- `err instanceof CourierError && err.isRetryable` -/
def Thrown.isRetryable : Thrown → Bool
  | courierError _ _ _ _ _ isRetryable => isRetryable
  | _ => false

namespace UrbaneBoltClient

abbrev ClientM := Async ClientState Thrown

def record (event : ClientEvent) : ClientM Unit := .modify (event :: ·)

/-- `data.access_token || data.token || data.access || data.jwt || (typeof data === 'string' ? data : null)`,
as a string. A body without a token, or whose reading throws, gives none. -/
def tokenOf : Json → Option String
  | .string text => if text = "" then none else some text
  | .object fields =>
    (Json.firstTruthy [Json.field? "access_token" fields, Json.field? "token" fields,
      Json.field? "access" fields, Json.field? "jwt" fields]).bind Json.toText?
  | _ => none

def authError (responseData : Option Json) : Thrown :=
  courierError "Courier authentication failed with UrbaneBolt" .courierAuthError 502 responseData

def fetchAndStoreNewAuthToken (outcome : Option TokenOutcome) : ClientM String := do
  record (.tokenRequest outcome)
  match outcome with
  | none => .never
  | some (.failed responseData) =>
    record .cacheDel
    .throw (authError responseData)
  | some (.reply data) =>
    match tokenOf data with
    | none =>
      record .cacheDel
      .throw (authError none)
    | some stringToken =>
      record (.cacheSet stringToken)
      pure stringToken

def getAuthToken (script : CourierScript) (forceRefresh : Bool := false) : ClientM String := do
  let issued ← Async.gets ClientState.issued
  if forceRefresh then
    record .forceRefresh
    fetchAndStoreNewAuthToken (script.refreshed issued)
  else
    record (.cacheGet (script.cached issued))
    let cachedToken := orDefault (script.cached issued) ""
    if cachedToken ≠ "" then pure cachedToken
    else fetchAndStoreNewAuthToken (script.fetched issued)

def extractErrorMessage : Option Json → Except Thrown (Option String)
  | some (.string text) => .ok (if text = "" then none else some text)
  | some (.object fields) =>
    match Json.field? "message" fields, Json.field? "error" fields, Json.field? "detail" fields,
      Json.field? "errors" fields with
    | some (.string text), _, _, _ => .ok (some text)
    | _, some (.string text), _, _ => .ok (some text)
    | _, _, some (.string text), _ => .ok (some text)
    | _, _, _, some (.array (first :: _)) =>
      match first.toText? with
      | some text => .ok (some text)
      | none => .error (.error "Cannot convert object to primitive value")
    | _, _, _, _ => .ok none
  | _ => .ok none

def createClientError (rawData : Option Json) : Thrown :=
  match extractErrorMessage rawData with
  | .error thrown => thrown
  | .ok message =>
    courierError ("UrbaneBolt rejected the request: " ++ orDefault message "Invalid request parameters")
      .courierBadRequest 400 rawData

def createServerError (error : AxiosError) (rawData : Option Json) : Thrown :=
  let isTimeout := error.code = some "ECONNABORTED" || JsText.includes error.message "timeout"
  courierError
    (if isTimeout then "UrbaneBolt courier API timed out"
    else "UrbaneBolt courier service is currently unavailable")
    (if isTimeout then .courierTimeout else .courierServiceUnavailable)
    (if isTimeout then 504 else 502) rawData true

/-- `again` is `this.request(method, url, data, params, true)`; there is none once `hasRetriedAuth`. -/
def handleAxiosRequestError (script : CourierScript) (again : Option (ClientM Json))
    (error : AxiosError) : ClientM Json :=
  match error.isAuthFailure, again with
  | true, some again => do
    record .cacheDel
    let _ ← getAuthToken script true
    again
  | _, _ =>
    if error.isClientError then .throw (createClientError error.data?)
    else .throw (createServerError error error.data?)

def send (script : CourierScript) (request : ApiRequest) (token : String) : ClientM HttpOutcome := do
  let issued ← Async.gets ClientState.issued
  record (.businessRequest request token (script.business issued))
  match script.business issued with
  | none => .never
  | some outcome => pure outcome

def executeCall (script : CourierScript) (request : ApiRequest) (again : Option (ClientM Json)) :
    ClientM Json := do
  let token ← getAuthToken script
  match ← send script request token with
  | .reply data => pure data
  | .axiosError error => handleAxiosRequestError script again error
  | .exception message => .throw (.error message)

def retryOptions (config : ClientConfig) : RetryOptions Thrown where
  maxAttempts := config.retryAttempts
  initialDelayMs := config.retryDelayMs
  backoffFactor := 2
  jitter := true
  shouldRetry err _ := err.isRetryable

/-- The loop that a request runs its attempts in, under this `maxAttempts` and as far as the fuel
goes. -/
def retries (maxAttempts : Option Int) (config : ClientConfig) (script : CourierScript) (fuel : Nat)
    (fn : ClientM Json) : ClientM Json :=
  retryLoop maxAttempts (retryOptions config) (fun s => script.random s.issued)
    (fun _ attempt delayMs s => .sleep attempt delayMs :: s) fn fuel 1 config.retryDelayMs

def withRetries (config : ClientConfig) (script : CourierScript) : ClientM Json → ClientM Json :=
  retries config.retryAttempts config script (retryOptions config).attempts

theorem withRetries_eq (config : ClientConfig) (script : CourierScript) (fn : ClientM Json) :
    withRetries config script fn =
      retryWithBackoff (retryOptions config) (fun s : ClientState => script.random s.issued)
        (fun _ attempt delayMs s => .sleep attempt delayMs :: s) fn := rfl

def requestIn (withRetries : ClientM Json → ClientM Json) (script : CourierScript) (call : ApiRequest)
    (hasRetriedAuth : Bool) : ClientM Json :=
  let reauthenticated := withRetries (executeCall script call none)
  if hasRetriedAuth then reauthenticated
  else withRetries (executeCall script call (some reauthenticated))

def request (config : ClientConfig) (script : CourierScript) (call : ApiRequest)
    (hasRetriedAuth : Bool := false) : ClientM Json :=
  requestIn (withRetries config script) script call hasRetriedAuth

end UrbaneBoltClient

/-- `payload` is what `toManifestPayload` makes of the order. -/
def UrbaneBoltAdapter.createShipment (config : ClientConfig) (script : CourierScript) (payload : Json)
    (now : Int) (random : Fin 9000) (order : NormalizedCreateOrderRequest) :
    UrbaneBoltClient.ClientM NormalizedCreateOrderResponse := fun s =>
  let manifest := UrbaneBoltClient.request config script
    { method := .post, url := "/services/manifest/", data := some payload } false s
  (manifest.1, manifest.2.map (UrbaneBoltMapper.createShipment now random order))

end CourierPlatform
