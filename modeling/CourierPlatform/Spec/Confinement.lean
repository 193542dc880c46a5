import CourierPlatform.Model.BulkOrderService
import CourierPlatform.Model.ErrorHandler
import CourierPlatform.Model.UrbaneBoltClient

/-! Runs of `createOrder` with the UrbaneBolt adapter, and which of them differ only in what the courier
writes into the bodies of failing replies. -/
namespace CourierPlatform
open Js UrbaneBoltClient

/-! ## Blanked bodies -/

def AxiosError.bodiless (error : AxiosError) : AxiosError :=
  { error with response := error.response.map fun response => (response.1, .null) }

def HttpOutcome.bodiless : HttpOutcome → HttpOutcome
  | axiosError error => axiosError error.bodiless
  | outcome => outcome

def TokenOutcome.bodiless : TokenOutcome → TokenOutcome
  | failed responseData => failed (responseData.map fun _ => .null)
  | outcome => outcome

def ClientEvent.bodiless : ClientEvent → ClientEvent
  | tokenRequest outcome => tokenRequest (outcome.map TokenOutcome.bodiless)
  | businessRequest request token outcome =>
    businessRequest request token (outcome.map HttpOutcome.bodiless)
  | event => event

def ClientState.bodiless (s : ClientState) : ClientState := s.map ClientEvent.bodiless

/-- What the outside answers, up to the bodies of failing replies. -/
def CourierScript.bodiless (script : CourierScript) : CourierScript :=
  { script with
    fetched := fun k => (script.fetched k).map TokenOutcome.bodiless
    refreshed := fun k => (script.refreshed k).map TokenOutcome.bodiless
    business := fun k => (script.business k).map HttpOutcome.bodiless }

/-! ## Runs of `createOrder` -/

structure UrbaneBoltSettings where
  config : ClientConfig
  payload : NormalizedCreateOrderRequest → Json
  random : Fin 9000

structure BookingRun where
  world : World
  call : CreateOrder
  events : ClientState := []

namespace BookingRun

variable (env : Env) (settings : UrbaneBoltSettings) (script : CourierScript)

def settle (run : BookingRun) (answer : Answer) (events : ClientState) : BookingRun :=
  match OrderService.step env run.world run.call answer with
  | some (world, call) => ⟨world, call, events⟩
  | none => ⟨run.world, run.call, events⟩

def advance (run : BookingRun) (ms : Nat) (answer : Answer) : BookingRun :=
  let run := { run with world := { run.world with now := run.world.now + ms } }
  match run.call with
  | .createShipment orderData _ adapter =>
    if adapter.partnerName = "urbanebolt" then
      let shipped := UrbaneBoltAdapter.createShipment settings.config script
        (settings.payload orderData) run.world.now settings.random orderData []
      match shipped.2 with
      | none => { run with events := shipped.1 }
      | some (.ok reply) => run.settle env (.booked reply) shipped.1
      | some (.error error) => run.settle env (.refused error) shipped.1
    else run
  | _ => run.settle env answer run.events

def after (run : BookingRun) : List (Nat × Answer) → BookingRun
  | [] => run
  | (ms, answer) :: rest => (run.advance env settings script ms answer).after rest

end BookingRun

/-! ## What the caller sees -/

def ClientEvent.isHttp : ClientEvent → Bool
  | tokenRequest _ => true
  | businessRequest .. => true
  | _ => false

/-- The body of the last HTTP call, if that is a business request that was answered with a 4xx. -/
def ClientState.rejection? (s : ClientState) : Option (Option Json) :=
  match s.find? ClientEvent.isHttp with
  | some (.businessRequest _ _ (some (.axiosError error))) =>
    if error.isClientError then some error.data? else none
  | _ => none

structure ShownError where
  status : Option Nat
  code : String
  message : String
  details : Option Json

def ShownError.byHandler (traits : ErrorTraits) (error : Thrown) : ShownError :=
  let info := resolveErrorInfo traits error
  ⟨some info.statusCode, info.errorCode, info.message, info.details⟩

def ShownError.inBatch (orderItem : NormalizedCreateOrderRequest) (error : Thrown) :
    Option ShownError :=
  (BulkOrderService.formatItemErrorResult orderItem error).error.map fun shown =>
    ⟨none, shown.code, shown.message, shown.details⟩

/-- `s` ends with a rejection and the message repeats what `extractErrorMessage` finds in its body. -/
def ClientState.Repeats (s : ClientState) (message : String) : Prop :=
  ∃ rawData found, s.rejection? = some rawData ∧ extractErrorMessage rawData = .ok found ∧
    message = "UrbaneBolt rejected the request: " ++ orDefault found "Invalid request parameters"

/-- The two reports are equal but for a message that repeats a rejection. -/
structure ShownError.Alike (s t : ClientState) (first second : ShownError) : Prop where
  status : first.status = second.status
  code : first.code = second.code
  details : first.details = second.details
  message : first.message = second.message ∨ s.Repeats first.message ∧ t.Repeats second.message

structure Thrown.ReportedAlike (traits : ErrorTraits) (s t : ClientState) (first second : Thrown) :
    Prop where
  byHandler : ShownError.Alike s t (.byHandler traits first) (.byHandler traits second)
  inBatch : ∀ orderItem a b, ShownError.inBatch orderItem first = some a →
    ShownError.inBatch orderItem second = some b → ShownError.Alike s t a b

inductive CreateOrder.EndsAlike (alike : Thrown → Thrown → Prop) :
    CreateOrder → CreateOrder → Prop where
  | same (call : CreateOrder) : EndsAlike alike call call
  | auditing {orderData persistedOrder first second} (errors : alike first second) :
      EndsAlike alike (.updateFailed orderData persistedOrder first)
        (.updateFailed orderData persistedOrder second)
  | rejected {first second} (errors : alike first second) :
      EndsAlike alike (.rejected first) (.rejected second)

structure BookingRun.Confined (traits : ErrorTraits) (first second : BookingRun) : Prop where
  calls : first.events.bodiless = second.events.bodiless
  ends : first.call.EndsAlike (Thrown.ReportedAlike traits first.events second.events) second.call

end CourierPlatform
