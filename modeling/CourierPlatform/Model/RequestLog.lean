import CourierPlatform.Model.ConcurrentClient
import CourierPlatform.Model.System

/-! The log records of bookings. All continuations of one HTTP request see one context object, which
`createOrder` writes when it is called and which the format of the logger reads when a record is
emitted. No process dies here. -/
namespace CourierPlatform
open Js Library UrbaneBoltClient

structure RequestContext where
  requestId : Option String := none
  orderId : Option String := none
  courierPartner : Option String := none

/-- What the order service, the adapters and the client log for a booking. The records with an order
are given its `orderId` at the call of the logger. -/
inductive LogMessage where
  | idempotentHit
  | successfullyCreated
  | failedToPersist (orderId : String)
  | dispatching (orderId : String)
  | shipmentCreated (orderId : String)
  | authenticating
  | authenticationSuccessful
  | authenticationFailed
  | retrying
  | invalidatingToken
  | clientError
  | serverError

namespace LogMessage

def ownOrderId? : LogMessage → Option String
  | failedToPersist orderId => some orderId
  | dispatching orderId => some orderId
  | shipmentCreated orderId => some orderId
  | _ => none

def info (message : LogMessage) (context : RequestContext) : RequestContext :=
  match message with
  | authenticating | authenticationSuccessful | authenticationFailed | invalidatingToken =>
    { requestId := context.requestId }
  | clientError | serverError => { requestId := context.requestId, orderId := context.orderId }
  | _ => { orderId := message.ownOrderId? }

end LogMessage

/-- `context.x && !info.x` is what lets the context's value in. -/
def injectField (context info : Option String) : Option String :=
  if context.any (· ≠ "") && !info.any (· ≠ "") then context else info

def contextFormat (context info : RequestContext) : RequestContext where
  requestId := injectField context.requestId info.requestId
  orderId := injectField context.orderId info.orderId
  courierPartner := injectField context.courierPartner info.courierPartner

/-- A record, with the `createOrder` call that it is emitted for. -/
structure LogRecord where
  task : Nat
  message : LogMessage
  info : RequestContext

/-! ## Where records are emitted -/

def RequestCall.retryMessages : RequestCall → List LogMessage
  | .sleeping _ => [.retrying]
  | _ => []

def RequestCall.answerMessages (config : ClientConfig) (retries : RetryState) (token : String)
    (outcome : HttpOutcome) : List LogMessage :=
  let retrying := (RequestCall.answered config retries token outcome).retryMessages
  match outcome with
  | .axiosError error =>
    if error.isAuthFailure && retries.reauthenticated.isNone then [.invalidatingToken]
    else (if error.isClientError then .clientError else .serverError) :: retrying
  | _ => retrying

def ClientsState.messages (config : ClientConfig) (s : ClientsState) :
    ClientsLabel → Option (Nat × List LogMessage)
  | .answer i outcome =>
    match s.calls[i]? with
    | some (_, .sent retries token) =>
      some (i, RequestCall.answerMessages config retries token outcome)
    | _ => none
  | .resume i =>
    let authenticates (client : Nat) : List LogMessage :=
      if (s.isAuthenticating client).isNone then [.authenticating] else []
    match s.calls[i]? with
    | some (client, .cacheRead _ cachedToken) =>
      some (i, if orDefault cachedToken "" ≠ "" then [] else authenticates client)
    | some (client, .cacheDeleted _) => some (i, authenticates client)
    | some (_, .authenticating retries _ fetch) =>
      match s.fetches[fetch]? with
      | some ⟨_, _, .settled (.error error)⟩ =>
        some (i, (RequestCall.failed config retries error).retryMessages)
      | _ => none
    | _ => none
  | .resumeFetch k =>
    match s.fetches[k]? with
    | some ⟨_, startedBy, .cacheStored _⟩ => some (startedBy, [.authenticationSuccessful])
    | some ⟨_, startedBy, .cacheDeleted _⟩ => some (startedBy, [.authenticationFailed])
    | _ => none
  | _ => none

/-- What `createOrder` logs on its way to the next await; an adapter logs first of all. -/
def CreateOrder.messages : CreateOrder → Answer → CreateOrder → List LogMessage
  | .findOne _, _, .resolved _ => [.idempotentHit]
  | .updateFailed _ persistedOrder _, .dbError _, _ => [.failedToPersist persistedOrder.orderId]
  | .saveUpdate .., _, .resolved _ => [.successfullyCreated]
  | .saveEvent .., _, .resolved _ => [.successfullyCreated]
  | _, _, .createShipment orderData _ _ => [.dispatching orderData.orderId]
  | _, _, _ => []

def Task.createOrder? : Task → Option CreateOrder
  | createOrder call => some call
  | bulkItem _ _ call => some call
  | _ => none

def Task.shipping? (task : Task) : Option NormalizedCreateOrderRequest :=
  match task.createOrder? with
  | some (.createShipment orderData _ adapter) =>
    if adapter.partnerName = "urbanebolt" then some orderData else none
  | _ => none

def RequestCall.result? : RequestCall → Option (Except Thrown Json)
  | .resolved data => some (.ok data)
  | .rejected error => some (.error error)
  | _ => none

/-! ## The platform with its log -/

structure Deployment where
  env : Env
  client : ClientConfig
  process : Nat → Nat

structure Handling where
  request : Nat
  orderData : NormalizedCreateOrderRequest

structure LoggedState where
  platform : State
  clients : ClientsState
  /-- The contexts, by the number of the HTTP request. -/
  contexts : Nat → RequestContext
  /-- The `createOrder` calls, by task. -/
  handling : Nat → Option Handling := fun _ => none
  /-- The order for which `createOrder` was called last, by request. -/
  latest : Nat → Option NormalizedCreateOrderRequest := fun _ => none
  /-- The tasks for which the clients' calls are made. -/
  owners : Nat → Option Nat := fun _ => none
  log : List LogRecord := []

inductive LoggedLabel where
  | platform (l : Label)
  | client (l : ClientsLabel)
  /-- A client call has settled, and its adapter goes on. -/
  | ship (call : Nat) (random : Fin 9000)

def State.begins? (s : State) : Label → Option Handling
  | .start (.createOrder orderData) => some ⟨s.tasks.length, orderData⟩
  | .startItem bulk =>
    match s.tasks[bulk]? with
    | some (.createBulkOrders (.executing _ orders currentIndex)) =>
      (orders[currentIndex]?).map fun orderItem => ⟨bulk, orderItem⟩
    | _ => none
  | _ => none

namespace LoggedState

variable (d : Deployment) (s : LoggedState)

def init (w : World) (cache : Option String) (calls : List (Nat × RequestCall))
    (requestIds : Nat → String) : LoggedState where
  platform := .init w
  clients := { cache, calls }
  contexts request := { requestId := some (requestIds request) }

/-- The new task's `createOrder` sets the values of its request's context. -/
def begin (handling : Handling) : LoggedState :=
  let task := s.platform.tasks.length
  { s with
    contexts := fun request =>
      if request = handling.request then
        { s.contexts request with
          orderId := some handling.orderData.orderId
          courierPartner := some handling.orderData.courierPartner }
      else s.contexts request
    handling := fun i => if i = task then some handling else s.handling i
    latest := fun request =>
      if request = handling.request then some handling.orderData else s.latest request }

def proceed (l : Label) (platform : State) : LoggedState :=
  match s.platform.begins? l with
  | some handling => { s.begin handling with platform }
  | none => { s with platform }

def dispatch (i : Nat) : LoggedState :=
  match (s.platform.tasks[i]?).bind Task.shipping?, s.handling i with
  | some _, some handling =>
    let call := s.clients.calls.length
    { s with
      clients := { s.clients with
        calls := s.clients.calls ++ [(d.process handling.request, .cacheGet { attempt := 1 })] }
      owners := fun c => if c = call then some i else s.owners c }
  | _, _ => s

def emitted : LoggedLabel → List (Nat × LogMessage)
  | .platform (.settle i answer) =>
    match (s.platform.tasks[i]?).bind Task.createOrder? with
    | some call =>
      match OrderService.step d.env s.platform.world call answer with
      | some (_, call') => (call.messages answer call').map fun message => (i, message)
      | none => []
    | none => []
  | .platform _ => []
  | .client l =>
    match s.clients.messages d.client l with
    | some (call, messages) =>
      match s.owners call with
      | some i => messages.map fun message => (i, message)
      | none => []
    | none => []
  | .ship k _ =>
    match s.owners k, s.clients.calls[k]? with
    | some i, some (_, .resolved _) =>
      match (s.platform.tasks[i]?).bind Task.shipping? with
      | some orderData => [(i, .shipmentCreated orderData.orderId)]
      | none => []
    | _, _ => []

/-- The context that a task sees. -/
def contextOf (i : Nat) : RequestContext :=
  match s.handling i with
  | some handling => s.contexts handling.request
  | none => {}

def records (l : LoggedLabel) : List LogRecord :=
  (s.emitted d l).map fun entry =>
    let context := s.contextOf entry.1
    ⟨entry.1, entry.2, contextFormat context (entry.2.info context)⟩

def move : LoggedLabel → Option LoggedState
  | .platform (.crash _) => none
  | .platform (.settle i answer) =>
    if ((s.platform.tasks[i]?).bind Task.shipping?).isSome then none
    else (State.next d.env s.platform (.settle i answer)).map fun platform =>
      { s with platform }.dispatch d i
  | .platform l => (State.next d.env s.platform l).map (s.proceed l)
  | .client l => (s.clients.next d.client l).map fun clients => { s with clients }
  | .ship k random => do
    let i ← s.owners k
    let orderData ← (s.platform.tasks[i]?).bind Task.shipping?
    let manifest ← (s.clients.calls[k]?).bind fun call => call.2.result?
    let answer : Answer :=
      match UrbaneBoltMapper.createShipment s.platform.world.now random orderData manifest with
      | .ok reply => .booked reply
      | .error error => .refused error
    let platform ← State.next d.env s.platform (.settle i answer)
    some { s with platform }

def next (l : LoggedLabel) : Option LoggedState :=
  (s.move d l).map fun t => { t with log := s.records d l ++ t.log }

end LoggedState

def logging (d : Deployment) : Machine LoggedState LoggedLabel := ⟨fun s l => s.next d l⟩

end CourierPlatform
