import CourierPlatform.Proofs.ClientAttempts
import CourierPlatform.Spec.Confinement
import CourierPlatform.Spec.Schedules

/-! Two runs that differ in nothing but the bodies of failing replies, side by side. Only the rejection
that ends a run shows a body, and it fails to be one where that body cannot be read. -/
namespace CourierPlatform
open Js UrbaneBoltClient

def Thrown.withoutBody : Thrown → Thrown
  | courierError message courierPartner errorCode statusCode _ isRetryable =>
    courierError message courierPartner errorCode statusCode none isRetryable
  | other => other

/-- The same events up to bodies, of which the last HTTP call is no rejection. -/
structure Blind (s t : ClientState) : Prop where
  events : s.bodiless = t.bodiless
  left : s.rejection? = none
  right : t.rejection? = none

inductive Refused (s t : ClientState) : Thrown → Thrown → Prop where
  | error {first second} (blind : Blind s t) (same : first.withoutBody = second.withoutBody) :
      Refused s t first second
  | rejected {rawData rawData'} (events : s.bodiless = t.bodiless)
      (left : s.rejection? = some rawData) (right : t.rejection? = some rawData') :
      Refused s t (createClientError rawData) (createClientError rawData')

inductive Ends {α : Type} :
    ClientState × Option (Except Thrown α) → ClientState × Option (Except Thrown α) → Prop where
  | pending {s t} (blind : Blind s t) : Ends (s, none) (t, none)
  | ok {s t} (blind : Blind s t) (a : α) : Ends (s, some (.ok a)) (t, some (.ok a))
  | refused {s t first second} (refused : Refused s t first second) :
      Ends (s, some (.error first)) (t, some (.error second))

def Coupled {α : Type} (first second : ClientM α) : Prop :=
  ∀ s t, Blind s t → Ends (first s) (second t)

section
variable {α β : Type} {s t : ClientState} {first second : ClientEvent}

theorem rejection?_cons_of_quiet {event : ClientEvent} (quiet : event.isHttp = false) :
    ClientState.rejection? (event :: s) = s.rejection? := by
  unfold ClientState.rejection?
  rw [List.find?_cons_of_neg (by simp [quiet])]

theorem issued_of_bodiless (events : s.bodiless = t.bodiless) : s.issued = t.issued := by
  have kept : ∀ s : ClientState, ClientState.issued s.bodiless = s.issued := by
    intro s
    unfold ClientState.issued ClientState.bodiless
    rw [List.countP_map]
    apply List.countP_congr
    intro event _
    cases event <;> rfl
  rw [← kept s, events, kept t]

theorem Blind.cons (events : s.bodiless = t.bodiless) (same : first.bodiless = second.bodiless)
    (quiet : ClientState.rejection? (first :: s) = none)
    (quiet' : ClientState.rejection? (second :: t) = none) : Blind (first :: s) (second :: t) := by
  refine ⟨?_, quiet, quiet'⟩
  change first.bodiless :: s.bodiless = second.bodiless :: t.bodiless
  rw [same, events]

theorem Blind.cons_same (h : Blind s t) {event : ClientEvent} (quiet : event.isHttp = false) :
    Blind (event :: s) (event :: t) :=
  .cons h.events rfl ((rejection?_cons_of_quiet quiet).trans h.left)
    ((rejection?_cons_of_quiet quiet).trans h.right)

theorem Ends.bind {s t : ClientState} {first second : ClientM α} {rest rest' : α → ClientM β}
    (h : Ends (first s) (second t)) (next : ∀ a, Coupled (rest a) (rest' a)) :
    Ends ((first >>= rest) s) ((second >>= rest') t) := by
  rw [Async.bind_apply, Async.bind_apply]
  generalize first s = left at h
  generalize second t = right at h
  cases h with
  | pending blind => exact .pending blind
  | ok blind a => exact next a _ _ blind
  | refused refused => exact .refused refused

namespace Coupled

theorem pure (a : α) : Coupled (Pure.pure a : ClientM α) (Pure.pure a) := by
  intro s t blind
  exact .ok blind a

theorem never : Coupled (Async.never : ClientM α) Async.never := by
  intro s t blind
  exact .pending blind

theorem throw {first second : Thrown} (same : first.withoutBody = second.withoutBody) :
    Coupled (Async.throw first : ClientM α) (Async.throw second) := by
  intro s t blind
  exact .refused (.error blind same)

theorem bind {first second : ClientM α} {rest rest' : α → ClientM β} (h : Coupled first second)
    (next : ∀ a, Coupled (rest a) (rest' a)) : Coupled (first >>= rest) (second >>= rest') := by
  intro s t blind
  exact (h s t blind).bind next

theorem record {event : ClientEvent} (quiet : event.isHttp = false) {rest rest' : Unit → ClientM α}
    (next : Coupled (rest ()) (rest' ())) :
    Coupled (UrbaneBoltClient.record event >>= rest) (UrbaneBoltClient.record event >>= rest') := by
  intro s t blind
  exact next _ _ (blind.cons_same quiet)

end Coupled
end

/-! ## The client -/

section
variable {script script' : CourierScript} {call : ApiRequest} {config : ClientConfig}
  {again again' : Option (ClientM Json)}

theorem fetch_ends {s t : ClientState} {outcome outcome' : Option TokenOutcome}
    (events : s.bodiless = t.bodiless)
    (same : outcome.map TokenOutcome.bodiless = outcome'.map TokenOutcome.bodiless) :
    Ends (fetchAndStoreNewAuthToken outcome s) (fetchAndStoreNewAuthToken outcome' t) := by
  have asked : Blind (.tokenRequest outcome :: s) (.tokenRequest outcome' :: t) :=
    .cons events (by simp only [ClientEvent.bodiless, same]) rfl rfl
  unfold fetchAndStoreNewAuthToken
  rw [record_bind, record_bind]
  cases outcome with
  | none =>
    cases outcome' with
    | none => exact .pending asked
    | some => contradiction
  | some outcome =>
    cases outcome' with
    | none => contradiction
    | some outcome' =>
      cases outcome with
      | failed body =>
        cases outcome' with
        | failed body' =>
          refine Coupled.record rfl ?_ _ _ asked
          apply Coupled.throw
          rfl
        | reply => simp [TokenOutcome.bodiless] at same
      | reply data =>
        cases outcome' with
        | failed => simp [TokenOutcome.bodiless] at same
        | reply data' =>
          simp only [Option.map_some, TokenOutcome.bodiless, Option.some.injEq,
            TokenOutcome.reply.injEq] at same
          subst same
          cases read : tokenOf data with
          | none =>
            simp only [read]
            exact Coupled.record rfl (Coupled.throw rfl) _ _ asked
          | some token =>
            simp only [read]
            exact Coupled.record rfl (Coupled.pure token) _ _ asked

theorem CourierScript.fetched_of_bodiless (same : script.bodiless = script'.bodiless) (k : Nat) :
    (script.fetched k).map TokenOutcome.bodiless = (script'.fetched k).map TokenOutcome.bodiless :=
  congrFun (congrArg CourierScript.fetched same) k

theorem CourierScript.refreshed_of_bodiless (same : script.bodiless = script'.bodiless) (k : Nat) :
    (script.refreshed k).map TokenOutcome.bodiless =
      (script'.refreshed k).map TokenOutcome.bodiless :=
  congrFun (congrArg CourierScript.refreshed same) k

theorem CourierScript.business_of_bodiless (same : script.bodiless = script'.bodiless) (k : Nat) :
    (script.business k).map HttpOutcome.bodiless = (script'.business k).map HttpOutcome.bodiless :=
  congrFun (congrArg CourierScript.business same) k

theorem CourierScript.cached_of_bodiless (same : script.bodiless = script'.bodiless) (k : Nat) :
    script.cached k = script'.cached k :=
  congrFun (congrArg CourierScript.cached same) k

theorem CourierScript.random_of_bodiless (same : script.bodiless = script'.bodiless) (k : Nat) :
    script.random k = script'.random k :=
  congrFun (congrArg CourierScript.random same) k

theorem getAuthToken_coupled (same : script.bodiless = script'.bodiless) :
    Coupled (getAuthToken script) (getAuthToken script') := by
  intro s t blind
  unfold getAuthToken
  rw [Async.gets_bind, Async.gets_bind, ← issued_of_bodiless blind.events,
    if_neg Bool.false_ne_true, if_neg Bool.false_ne_true, ← script.cached_of_bodiless same,
    record_bind, record_bind]
  have read : Blind (.cacheGet (script.cached s.issued) :: s)
      (.cacheGet (script.cached s.issued) :: t) := blind.cons_same rfl
  by_cases empty : orDefault (script.cached s.issued) "" = ""
  · simp only [empty, ne_eq, not_true_eq_false, if_false]
    exact fetch_ends read.events (script.fetched_of_bodiless same _)
  · simp only [empty, ne_eq, not_false_eq_true, if_true]
    exact Coupled.pure _ _ _ read

theorem getAuthToken_ends {s t : ClientState} (same : script.bodiless = script'.bodiless)
    (events : s.bodiless = t.bodiless) :
    Ends (getAuthToken script true s) (getAuthToken script' true t) := by
  unfold getAuthToken
  rw [Async.gets_bind, Async.gets_bind, ← issued_of_bodiless events, if_pos rfl, if_pos rfl,
    record_bind, record_bind]
  apply fetch_ends
  · exact congrArg (ClientEvent.forceRefresh :: ·) events
  · exact script.refreshed_of_bodiless same _

theorem AxiosError.status_of_bodiless {error error' : AxiosError}
    (same : error.bodiless = error'.bodiless) : error.status? = error'.status? := by
  have kept (error : AxiosError) : error.bodiless.status? = error.status? := by
    unfold AxiosError.bodiless AxiosError.status?
    rw [Option.map_map]
    rfl
  rw [← kept error, same, kept error']

theorem createServerError_withoutBody {error error' : AxiosError} {rawData rawData' : Option Json}
    (same : error.bodiless = error'.bodiless) :
    (createServerError error rawData).withoutBody = (createServerError error' rawData').withoutBody := by
  have code : error.code = error'.code := (congrArg AxiosError.code same :)
  have message : error.message = error'.message := (congrArg AxiosError.message same :)
  unfold createServerError
  rw [code, message]
  rfl

theorem rejection?_businessRequest {s : ClientState} {request : ApiRequest} {token : String}
    {error : AxiosError} :
    ClientState.rejection? (.businessRequest request token (some (.axiosError error)) :: s) =
      if error.isClientError then some error.data? else none := rfl

theorem refusal_ends {s t : ClientState} {token : String} {error error' : AxiosError}
    (blind : Blind s t) (same : error.bodiless = error'.bodiless) :
    Ends
      ((if error.isClientError then .throw (createClientError error.data?)
        else .throw (createServerError error error.data?) : ClientM Json)
        (.businessRequest call token (some (.axiosError error)) :: s))
      ((if error'.isClientError then .throw (createClientError error'.data?)
        else .throw (createServerError error' error'.data?) : ClientM Json)
        (.businessRequest call token (some (.axiosError error')) :: t)) := by
  have status : error.isClientError = error'.isClientError := by
    unfold AxiosError.isClientError
    rw [AxiosError.status_of_bodiless same]
  have event : (ClientEvent.businessRequest call token (some (.axiosError error))).bodiless =
      (ClientEvent.businessRequest call token (some (.axiosError error'))).bodiless := by
    simp only [ClientEvent.bodiless, Option.map_some, HttpOutcome.bodiless, same]
  by_cases client : error.isClientError = true
  · have client' := status ▸ client
    rw [if_pos client, if_pos client']
    apply Ends.refused
    apply Refused.rejected
    · exact congrArg₂ List.cons event blind.events
    · rw [rejection?_businessRequest, if_pos client]
    · rw [rejection?_businessRequest, if_pos client']
  · have client' := status ▸ client
    rw [if_neg client, if_neg client']
    apply Ends.refused
    apply Refused.error _ (createServerError_withoutBody same)
    apply Blind.cons blind.events event
    · rw [rejection?_businessRequest, if_neg client]
    · rw [rejection?_businessRequest, if_neg client']

theorem handleAxiosRequestError_ends {s t : ClientState} {token : String}
    {error error' : AxiosError} (scripts : script.bodiless = script'.bodiless)
    (blind : Blind s t) (same : error.bodiless = error'.bodiless)
    (next : Option.Rel Coupled again again') :
    Ends
      (handleAxiosRequestError script again error
        (.businessRequest call token (some (.axiosError error)) :: s))
      (handleAxiosRequestError script' again' error'
        (.businessRequest call token (some (.axiosError error')) :: t)) := by
  have status : error.isAuthFailure = error'.isAuthFailure := by
    unfold AxiosError.isAuthFailure
    rw [AxiosError.status_of_bodiless same]
  unfold handleAxiosRequestError
  rw [← status]
  cases next with
  | none => cases error.isAuthFailure <;> exact refusal_ends blind same
  | some next =>
    cases error.isAuthFailure with
    | false => exact refusal_ends blind same
    | true =>
      dsimp only
      rw [record_bind, record_bind]
      refine Ends.bind (getAuthToken_ends scripts ?_) fun _ => next
      simp only [ClientState.bodiless, List.map_cons, ClientEvent.bodiless, Option.map_some,
        HttpOutcome.bodiless, same]
      exact congrArg (ClientEvent.cacheDel :: .businessRequest call token _ :: ·) blind.events

theorem executeCall_coupled (scripts : script.bodiless = script'.bodiless)
    (next : Option.Rel Coupled again again') :
    Coupled (executeCall script call again) (executeCall script' call again') := by
  unfold executeCall
  apply Coupled.bind (getAuthToken_coupled scripts)
  intro token s t blind
  have sent := script.business_of_bodiless scripts s.issued
  simp only [Async.bind_apply, send_apply, ← issued_of_bodiless blind.events]
  generalize script.business s.issued = outcome at sent
  generalize script'.business s.issued = outcome' at sent
  cases outcome with
  | none =>
    cases outcome' with
    | some => contradiction
    | none => exact .pending (.cons blind.events rfl rfl rfl)
  | some outcome =>
    cases outcome' with
    | none => contradiction
    | some outcome' =>
      simp only [Option.map_some, Option.some.injEq] at sent
      cases outcome with
      | axiosError error =>
        cases outcome' with
        | axiosError error' =>
          exact handleAxiosRequestError_ends scripts blind (HttpOutcome.axiosError.inj sent) next
        | reply => contradiction
        | exception => contradiction
      | reply data =>
        cases outcome' with
        | axiosError => contradiction
        | exception => contradiction
        | reply data' =>
          cases sent
          exact .ok (.cons blind.events rfl rfl rfl) data
      | exception message =>
        cases outcome' with
        | axiosError => contradiction
        | reply => contradiction
        | exception message' =>
          cases sent
          exact .refused (.error (.cons blind.events rfl rfl rfl) rfl)

theorem isRetryable_of_withoutBody {error error' : Thrown}
    (same : error.withoutBody = error'.withoutBody) : error.isRetryable = error'.isRetryable := by
  have kept (error : Thrown) : error.withoutBody.isRetryable = error.isRetryable := by
    cases error <;> rfl
  rw [← kept error, same, kept error']

theorem retryLoop_coupled {random random' : ClientState → Rat} {fn fn' : ClientM Json}
    (draws : ∀ s t, Blind s t → random s = random' t) (attempt : Coupled fn fn')
    (fuel number : Nat) (delay : Rat) :
    Coupled
      (retryLoop config.retryAttempts (retryOptions config) random
        (fun _ attempt delayMs s => .sleep attempt delayMs :: s) fn fuel number delay)
      (retryLoop config.retryAttempts (retryOptions config) random'
        (fun _ attempt delayMs s => .sleep attempt delayMs :: s) fn' fuel number delay) := by
  induction fuel generalizing number delay with
  | zero => exact Coupled.never
  | succ fuel ih =>
    intro s t blind
    have ends := attempt s t blind
    unfold retryLoop
    generalize fn s = first at ends
    generalize fn' t = second at ends
    cases ends with
    | pending blind => exact .pending blind
    | ok blind a => exact .ok blind a
    | @refused s t first second refused =>
      cases refused with
      | rejected events left right =>
        have final (error : Thrown) (h : error.isRetryable = false) :
            (attemptsExhausted config.retryAttempts number ||
              !(retryOptions config).shouldRetry error number) = true := by
          simp [retryOptions, h]
        simp only [final _ (createClientError_final _), if_true]
        exact .refused (.rejected events left right)
      | error blind same =>
        have retried : (retryOptions config).shouldRetry second number =
            (retryOptions config).shouldRetry first number :=
          (isRetryable_of_withoutBody same).symm
        simp only [retried, ← draws s t blind]
        split
        · exact .refused (.error blind same)
        · apply ih
          exact blind.cons_same rfl

theorem withRetries_coupled (scripts : script.bodiless = script'.bodiless) {fn fn' : ClientM Json}
    (attempt : Coupled fn fn') :
    Coupled (withRetries config script fn) (withRetries config script' fn') := by
  apply retryLoop_coupled _ attempt
  intro s t blind
  rw [issued_of_bodiless blind.events, script.random_of_bodiless scripts]

theorem request_coupled (scripts : script.bodiless = script'.bodiless) :
    Coupled (request config script call) (request config script' call) := by
  unfold request requestIn
  rw [if_neg Bool.false_ne_true, if_neg Bool.false_ne_true]
  apply withRetries_coupled scripts
  apply executeCall_coupled scripts
  apply Option.Rel.some
  apply withRetries_coupled scripts
  exact executeCall_coupled scripts .none

end

theorem createShipment_coupled {script script' : CourierScript} {config : ClientConfig}
    (scripts : script.bodiless = script'.bodiless) (payload : Json) (now : Int) (random : Fin 9000)
    (order : NormalizedCreateOrderRequest) :
    Coupled (UrbaneBoltAdapter.createShipment config script payload now random order)
      (UrbaneBoltAdapter.createShipment config script' payload now random order) := by
  intro s t blind
  unfold UrbaneBoltAdapter.createShipment
  generalize ({ method := .post, url := "/services/manifest/", data := some payload } :
    ApiRequest) = call
  have ends : Ends (request config script call false s) (request config script' call false t) :=
    request_coupled scripts s t blind
  generalize request config script call false s = first at ends
  generalize request config script' call false t = second at ends
  cases ends with
  | pending blind => exact .pending blind
  | ok blind rawResponse =>
    simp only [Option.map_some]
    cases UrbaneBoltMapper.createShipment now random order (.ok rawResponse) with
    | ok reply => exact .ok blind reply
    | error error => exact .refused (.error blind rfl)
  | refused refused => exact .refused refused

/-! ## The runs -/

/-- Two runs that began alike: in step until a booking fails, and then with errors of one failure. -/
inductive Course (first second : BookingRun) : Prop where
  | together (world : first.world = second.world) (call : first.call = second.call)
      (blind : Blind first.events second.events)
  | auditing {orderData persistedOrder error error'}
      (refused : Refused first.events second.events error error')
      (call : first.call = .updateFailed orderData persistedOrder error)
      (call' : second.call = .updateFailed orderData persistedOrder error')
  | rejected {error error'}
      (refused : Refused first.events second.events error error')
      (call : first.call = .rejected error) (call' : second.call = .rejected error')

section
variable {env : Env} {settings : UrbaneBoltSettings} {script script' : CourierScript}
  {first second : BookingRun}

theorem Course.settle_together {world : World} {call : CreateOrder} {s t events events' : ClientState}
    (answer : Answer) (blind : Blind events events') :
    Course (BookingRun.settle env ⟨world, call, s⟩ answer events)
      (BookingRun.settle env ⟨world, call, t⟩ answer events') := by
  unfold BookingRun.settle
  cases OrderService.step env world call answer with
  | none => exact .together rfl rfl blind
  | some next => exact .together rfl rfl blind

theorem Course.advance (scripts : script.bodiless = script'.bodiless) (ms : Nat) (answer : Answer)
    (course : Course first second) :
    Course (first.advance env settings script ms answer)
      (second.advance env settings script' ms answer) := by
  obtain ⟨world, call, s⟩ := first
  obtain ⟨world', call', t⟩ := second
  cases course with
  | together worlds calls blind =>
    cases worlds
    cases calls
    cases call with
    | createShipment orderData persistedOrder adapter =>
      unfold BookingRun.advance
      dsimp only
      split
      · have ends : Ends
            (UrbaneBoltAdapter.createShipment settings.config script (settings.payload orderData)
              (world.now + ms) settings.random orderData [])
            (UrbaneBoltAdapter.createShipment settings.config script' (settings.payload orderData)
              (world.now + ms) settings.random orderData []) :=
          createShipment_coupled scripts _ _ _ _ [] [] ⟨rfl, rfl, rfl⟩
        generalize UrbaneBoltAdapter.createShipment settings.config script _ _ _ _ [] = shipped at ends
        generalize UrbaneBoltAdapter.createShipment settings.config script' _ _ _ _ [] = shipped' at ends
        cases ends with
        | pending blind => exact .together rfl rfl blind
        | ok blind reply => exact .settle_together _ blind
        | refused refused => exact .auditing refused rfl rfl
      · exact .together rfl rfl blind
    | _ =>
      unfold BookingRun.advance
      exact .settle_together answer blind
  | auditing refused call call' =>
    cases call
    cases call'
    cases answer with
    | ok => exact .rejected refused rfl rfl
    | dbError => exact .rejected refused rfl rfl
    | _ => exact .auditing refused rfl rfl
  | rejected refused call call' =>
    cases call
    cases call'
    exact .rejected refused rfl rfl

theorem Course.after (scripts : script.bodiless = script'.bodiless) (answers : List (Nat × Answer))
    (course : Course first second) :
    Course (first.after env settings script answers) (second.after env settings script' answers) := by
  induction answers generalizing first second with
  | nil => exact course
  | cons settled rest ih => exact ih (course.advance scripts settled.1 settled.2)

end

/-! ## The reports -/

section
variable {traits : ErrorTraits} {s t : ClientState} {error error' : Thrown}

theorem Thrown.ReportedAlike.of_eq
    (byHandler : ShownError.byHandler traits error = .byHandler traits error')
    (inBatch : ∀ orderItem, ShownError.inBatch orderItem error = ShownError.inBatch orderItem error') :
    Thrown.ReportedAlike traits s t error error' where
  byHandler := byHandler ▸ ⟨rfl, rfl, rfl, .inl rfl⟩
  inBatch orderItem a b shown shown' := by
    have same : a = b := Option.some.inj (shown.symm.trans ((inBatch orderItem).trans shown'))
    exact same ▸ ⟨rfl, rfl, rfl, .inl rfl⟩

theorem Thrown.ReportedAlike.of_withoutBody (same : error.withoutBody = error'.withoutBody) :
    Thrown.ReportedAlike traits s t error error' := by
  have byHandler (error : Thrown) :
      ShownError.byHandler traits error.withoutBody = .byHandler traits error := by
    cases error <;> rfl
  have inBatch (orderItem : NormalizedCreateOrderRequest) (error : Thrown) :
      ShownError.inBatch orderItem error.withoutBody = ShownError.inBatch orderItem error := by
    cases error <;> rfl
  apply Thrown.ReportedAlike.of_eq
  · rw [← byHandler error, same, byHandler error']
  · intro orderItem
    rw [← inBatch orderItem error, same, inBatch orderItem error']

theorem byHandler_error_code (traits : ErrorTraits) (message : String) :
    (ShownError.byHandler traits (.error message)).code ≠ ErrorCode.courierBadRequest.text := by
  unfold ShownError.byHandler resolveErrorInfo
  dsimp only
  split
  · decide
  · split
    · decide
    · split <;> decide

theorem createClientError_of_read {rawData : Option Json} {found : Option String}
    (read : extractErrorMessage rawData = .ok found) :
    createClientError rawData =
      .courierError ("UrbaneBolt rejected the request: " ++ orDefault found "Invalid request parameters")
        "urbanebolt" .courierBadRequest 400 rawData false := by
  unfold createClientError
  rw [read]
  rfl

theorem createClientError_of_thrown {rawData : Option Json} {thrown : Thrown}
    (unread : extractErrorMessage rawData = .error thrown) :
    createClientError rawData = .error "Cannot convert object to primitive value" := by
  unfold createClientError
  rw [unread]
  exact extractErrorMessage_thrown unread

/-- Two rejections are reported alike unless one body can be read and the other not. -/
theorem createClientError_reportedAlike_iff {rawData rawData' : Option Json}
    (left : s.rejection? = some rawData) (right : t.rejection? = some rawData') :
    Thrown.ReportedAlike traits s t (createClientError rawData) (createClientError rawData') ↔
      (extractErrorMessage rawData).isOk = (extractErrorMessage rawData').isOk := by
  cases read : extractErrorMessage rawData with
  | ok found =>
    cases read' : extractErrorMessage rawData' with
    | ok found' =>
      have repeats := And.intro (⟨rawData, found, left, read, rfl⟩ : s.Repeats _)
        (⟨rawData', found', right, read', rfl⟩ : t.Repeats _)
      rw [createClientError_of_read read, createClientError_of_read read']
      refine ⟨fun _ => rfl, fun _ => ⟨⟨rfl, rfl, rfl, .inr repeats⟩, ?_⟩⟩
      intro orderItem a b shown shown'
      cases shown
      cases shown'
      exact ⟨rfl, rfl, rfl, .inr repeats⟩
    | error thrown =>
      rw [createClientError_of_read read, createClientError_of_thrown read']
      refine ⟨fun alike => ?_, fun same => Bool.noConfusion same⟩
      exact (byHandler_error_code traits _ alike.byHandler.code.symm).elim
  | error thrown =>
    cases read' : extractErrorMessage rawData' with
    | ok found =>
      rw [createClientError_of_thrown read, createClientError_of_read read']
      refine ⟨fun alike => ?_, fun same => Bool.noConfusion same⟩
      exact (byHandler_error_code traits _ alike.byHandler.code).elim
    | error thrown' =>
      rw [createClientError_of_thrown read, createClientError_of_thrown read']
      exact ⟨fun _ => rfl, fun _ => .of_eq rfl fun _ => rfl⟩

theorem Refused.reportedAlike_iff (traits : ErrorTraits) (refused : Refused s t error error') :
    Thrown.ReportedAlike traits s t error error' ↔
      ∀ rawData rawData', s.rejection? = some rawData → t.rejection? = some rawData' →
        (extractErrorMessage rawData).isOk = (extractErrorMessage rawData').isOk := by
  cases refused with
  | error blind same =>
    refine ⟨fun _ rawData rawData' left => ?_, fun _ => .of_withoutBody same⟩
    rw [blind.left] at left
    contradiction
  | rejected events left right =>
    rw [createClientError_reportedAlike_iff left right, left, right]
    constructor
    · intro same rawData rawData' here here'
      cases here
      cases here'
      exact same
    · intro same
      exact same _ _ rfl rfl

theorem Refused.events (refused : Refused s t error error') : s.bodiless = t.bodiless := by
  cases refused with
  | error blind same => exact blind.events
  | rejected events left right => exact events

theorem Course.confined_iff {first second : BookingRun} (course : Course first second) :
    BookingRun.Confined traits first second ↔
      ∀ rawData rawData', first.events.rejection? = some rawData →
        second.events.rejection? = some rawData' →
        (extractErrorMessage rawData).isOk = (extractErrorMessage rawData').isOk := by
  cases course with
  | together world call blind =>
    constructor
    · intro _ rawData rawData' left
      rw [blind.left] at left
      contradiction
    · intro _
      exact ⟨blind.events, call ▸ .same _⟩
  | auditing refused call call' =>
    rw [← refused.reportedAlike_iff traits]
    constructor
    · intro ⟨_, same⟩
      rw [call, call'] at same
      cases same with
      | same => exact .of_withoutBody rfl
      | auditing errors => exact errors
    · intro alike
      exact ⟨refused.events, by rw [call, call']; exact .auditing alike⟩
  | rejected refused call call' =>
    rw [← refused.reportedAlike_iff traits]
    constructor
    · intro ⟨_, same⟩
      rw [call, call'] at same
      cases same with
      | same => exact .of_withoutBody rfl
      | rejected errors => exact errors
    · intro alike
      exact ⟨refused.events, by rw [call, call']; exact .rejected alike⟩

end

/-- Two runs of `createOrder` on one database, with scripts that differ in nothing but the bodies of
failing replies, make the same calls and end alike, but where they end with a rejection whose body
`extractErrorMessage` can read in one run and not in the other. -/
theorem errors_confined_iff (env : Env) (settings : UrbaneBoltSettings) (traits : ErrorTraits)
    {script script' : CourierScript} (same : script.bodiless = script'.bodiless) (w : World)
    (orderData : NormalizedCreateOrderRequest) (answers : List (Nat × Answer)) :
    let begun : BookingRun := { world := w, call := OrderService.createOrder orderData }
    let first := begun.after env settings script answers
    let second := begun.after env settings script' answers
    BookingRun.Confined traits first second ↔
      ∀ rawData rawData', first.events.rejection? = some rawData →
        second.events.rejection? = some rawData' →
        (extractErrorMessage rawData).isOk = (extractErrorMessage rawData').isOk := by
  apply Course.confined_iff
  apply Course.after same
  exact .together rfl rfl ⟨rfl, rfl, rfl⟩

def threeAttempts : UrbaneBoltSettings where
  config := { retryAttempts := 3, retryDelayMs := 1000 }
  payload _ := .null
  random := ⟨0, by decide⟩

def rejectsWith (body : Json) : CourierScript :=
  steadyTokens fun _ => some (.axiosError {
    message := "Request failed with status code 400"
    response := some (400, body) })

def typeErrors : ErrorTraits where
  name _ := "TypeError"
  hasBody _ := false

def textBody : Json := .object [("message", .string "Invalid pincode")]

def unreadableBody : Json := .object [("errors", .array [.object [("toString", .number 1)]])]

theorem errors_confined_text :
    let begun : BookingRun :=
      { world := .empty, call := OrderService.createOrder (parcel "A-1" "urbanebolt") }
    let settles : List (Nat × Answer) := [(0, .ok), (0, .ok), (0, .ok), (0, .ok)]
    BookingRun.Confined typeErrors
      (begun.after (defaultEnv .postgres .named) threeAttempts (rejectsWith textBody) settles)
      (begun.after (defaultEnv .postgres .named) threeAttempts (rejectsWith .null) settles) := by
  have same : (rejectsWith textBody).bodiless = (rejectsWith .null).bodiless := rfl
  apply (errors_confined_iff (defaultEnv .postgres .named) threeAttempts typeErrors same .empty _ _).mpr
  intro rawData rawData' left right
  cases left
  cases right
  rfl

/-- The body that cannot be read turns the rejection into an internal error. -/
theorem rejection_leaks_unreadable_body :
    ¬ ∀ (env : Env) settings traits (script script' : CourierScript) (w : World) orderData answers,
      script.bodiless = script'.bodiless →
      let begun : BookingRun := { world := w, call := OrderService.createOrder orderData }
      BookingRun.Confined traits (begun.after env settings script answers)
        (begun.after env settings script' answers) := by
  intro claim
  have confined := claim (defaultEnv .postgres .named) threeAttempts typeErrors
    (rejectsWith unreadableBody) (rejectsWith textBody) .empty (parcel "A-1" "urbanebolt")
    [(0, .ok), (0, .ok), (0, .ok), (0, .ok)] rfl
  have codes : (ShownError.byHandler typeErrors (createClientError (some unreadableBody))).code =
      (ShownError.byHandler typeErrors (createClientError (some textBody))).code := by
    cases confined.ends with
    | rejected errors => exact errors.byHandler.code
  exact absurd codes (by decide)

end CourierPlatform
