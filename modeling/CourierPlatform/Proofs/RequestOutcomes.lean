import CourierPlatform.Proofs.ClientAttempts
import CourierPlatform.Proofs.Confinement

/-! How a request ends. Its last HTTP call decides what it comes to, and every earlier one has failed
in a way that is retried, or has got a token. -/
namespace CourierPlatform
open Js UrbaneBoltClient

def Thrown.code? : Thrown → Option ErrorCode
  | courierError _ _ errorCode _ _ _ => some errorCode
  | appError _ _ errorCode _ => some errorCode
  | _ => none

inductive Fatal where
  | tokenFetch
  | exception
  | rejection

def Fatal.errorCode? : Fatal → Option ErrorCode
  | tokenFetch => some .courierAuthError
  | exception => none
  | rejection => some .courierBadRequest

namespace ClientState

def sinceRefresh : ClientState → Option Nat
  | [] => none
  | event :: earlier =>
    if event.isForceRefresh then some 0
    else if event.isBusinessRequest then (sinceRefresh earlier).map (· + 1)
    else sinceRefresh earlier

/-- The re-authenticated request is at work: a refresh has been forced and not all the attempts that
follow it have been made. -/
def reauthenticated (attempts : Nat) (s : ClientState) : Bool := s.sinceRefresh.any (· < attempts)

def lastCall? (s : ClientState) : Option ClientEvent := s.find? ClientEvent.isHttp

end ClientState

/-- Whether the HTTP call fails for good. An authentication failure does so on the re-authenticated
request, any other 4xx anywhere. -/
def ClientEvent.fatal? (attempts : Nat) (earlier : ClientState) : ClientEvent → Option Fatal
  | tokenRequest (some outcome) =>
    if TokenOutcome.grants (some outcome) then none else some .tokenFetch
  | businessRequest _ _ (some (.exception _)) => some .exception
  | businessRequest _ _ (some (.axiosError error)) =>
    if error.isClientError && (!error.isAuthFailure || earlier.reauthenticated attempts) then
      some .rejection
    else none
  | _ => none

/-- How the HTTP calls of a request and its outcome belong together. -/
structure ClientState.Classifies (attempts : Nat) (s : ClientState)
    (settled : Option (Except Thrown Json)) : Prop where
  resolves : ∀ data, settled = some (.ok data) ↔
    ∃ request token, s.lastCall? = some (.businessRequest request token (some (.reply data)))
  retryable : retryable settled = true ↔ ∃ request token outcome,
    s.lastCall? = some (.businessRequest request token (some outcome)) ∧ outcome.isTransient = true
  givesUp : ∀ later event earlier fatal, s = later ++ event :: earlier →
    event.fatal? attempts earlier = some fatal → (∀ call ∈ later, call.isHttp = false) ∧
      ∃ error, settled = some (.error error) ∧ error.isRetryable = false ∧
        ∀ code, fatal.errorCode? = some code → error.code? = some code

/-! ## Runs of a request -/

def ClientEvent.goesOn (attempts : Nat) (earlier : ClientState) : ClientEvent → Bool
  | tokenRequest outcome => TokenOutcome.grants outcome
  | businessRequest _ _ outcome => outcome.any fun answer =>
    answer.isTransient || answer.isAuthFailure && !earlier.reauthenticated attempts
  | _ => true

def ClientState.steady (attempts : Nat) : ClientState → Bool
  | [] => true
  | event :: earlier => event.goesOn attempts earlier && steady attempts earlier

inductive ClientEvent.Verdict (attempts : Nat) (earlier : ClientState) :
    ClientEvent → Option (Except Thrown Json) → Prop where
  | fetching : Verdict attempts earlier (.tokenRequest none) none
  | denied {outcome responseData} (denied : TokenOutcome.grants (some outcome) = false) :
      Verdict attempts earlier (.tokenRequest (some outcome)) (some (.error (authError responseData)))
  | sending {request token} : Verdict attempts earlier (.businessRequest request token none) none
  | answered {request token data} :
      Verdict attempts earlier (.businessRequest request token (some (.reply data))) (some (.ok data))
  | thrown {request token message} :
      Verdict attempts earlier (.businessRequest request token (some (.exception message)))
        (some (.error (.error message)))
  | rejected {request token error} (client : error.isClientError = true)
      (final : error.isAuthFailure = true → earlier.reauthenticated attempts = true) :
      Verdict attempts earlier (.businessRequest request token (some (.axiosError error)))
        (some (.error (createClientError error.data?)))
  | failed {request token error} (server : error.isClientError = false) :
      Verdict attempts earlier (.businessRequest request token (some (.axiosError error)))
        (some (.error (createServerError error error.data?)))

inductive Concluded (attempts : Nat) : ClientState × Option (Except Thrown Json) → Prop where
  | intro {later event earlier settled} (quiet : ∀ call ∈ later, call.isHttp = false)
      (steady : ClientState.steady attempts earlier = true) (http : event.isHttp = true)
      (verdict : event.Verdict attempts earlier settled) :
      Concluded attempts (later ++ event :: earlier, settled)

section
variable {attempts : Nat} {s : ClientState} {event : ClientEvent} {outcome : Option TokenOutcome}
  {script : CourierScript} {call : ApiRequest} {rest : String → ClientM Json}

@[simp] theorem steady_cons : ClientState.steady attempts (event :: s) =
    (event.goesOn attempts s && s.steady attempts) := rfl

@[simp] theorem sinceRefresh_cons : ClientState.sinceRefresh (event :: s) =
    if event.isForceRefresh then some 0
    else if event.isBusinessRequest then s.sinceRefresh.map (· + 1)
    else s.sinceRefresh := rfl

theorem Concluded.now {settled : Option (Except Thrown Json)} (steady : s.steady attempts = true)
    (http : event.isHttp = true) (verdict : event.Verdict attempts s settled) :
    Concluded attempts (event :: s, settled) :=
  @Concluded.intro attempts [] event s settled (by simp) steady http verdict

inductive Authorizes (attempts : Nat) (since : Option Nat) :
    ClientState × Option (Except Thrown String) → Prop where
  | granted {s' token} (steady : ClientState.steady attempts s' = true)
      (counted : ClientState.sinceRefresh s' = since) :
      Authorizes attempts since (s', some (.ok token))
  | denied {s' error} (concluded : Concluded attempts (s', some (.error error)))
      (final : error.isRetryable = false) : Authorizes attempts since (s', some (.error error))
  | pending {s'} (concluded : Concluded attempts (s', none)) : Authorizes attempts since (s', none)

theorem fetch_authorizes (outcome : Option TokenOutcome) (steady : s.steady attempts = true) :
    Authorizes attempts s.sinceRefresh (fetchAndStoreNewAuthToken outcome s) := by
  have denied {outcome : TokenOutcome} {responseData : Option Json}
      (denies : TokenOutcome.grants (some outcome) = false) :
      Concluded attempts (.cacheDel :: .tokenRequest (some outcome) :: s,
        some (.error (authError responseData))) :=
    @Concluded.intro _ [.cacheDel] _ _ _ (by simp [ClientEvent.isHttp]) steady rfl (.denied denies)
  unfold fetchAndStoreNewAuthToken
  rw [record_bind]
  cases outcome with
  | none => exact .pending (.now steady rfl .fetching)
  | some outcome =>
    cases outcome with
    | failed responseData => exact .denied (denied rfl) rfl
    | reply data =>
      cases found : tokenOf data with
      | none =>
        simp only [found]
        exact .denied (denied (by simp [TokenOutcome.grants, found])) rfl
      | some token =>
        simp only [found]
        apply Authorizes.granted
        · simp [ClientEvent.goesOn, TokenOutcome.grants, found, steady]
        · simp

theorem getAuthToken_authorizes (script : CourierScript) (steady : s.steady attempts = true) :
    Authorizes attempts s.sinceRefresh (getAuthToken script false s) := by
  have read : ClientState.steady attempts (.cacheGet (script.cached s.issued) :: s) = true := by
    simp [ClientEvent.goesOn, steady]
  unfold getAuthToken
  simp only [Async.gets_bind, Bool.false_eq_true, if_false, record_bind]
  split
  · exact .granted read (by simp)
  · have fetched := fetch_authorizes (script.fetched s.issued) read
    simpa using fetched

theorem getAuthToken_refreshes (script : CourierScript) (steady : s.steady attempts = true) :
    Authorizes attempts (some 0) (getAuthToken script true s) := by
  have forced : ClientState.steady attempts (.forceRefresh :: s) = true := by
    simp [ClientEvent.goesOn, steady]
  exact fetch_authorizes (script.refreshed s.issued) forced

inductive Executed (attempts : Nat) (again : Option (ClientM Json)) (since : Option Nat) :
    ClientState × Option (Except Thrown Json) → Prop where
  | final {ran} (concluded : Concluded attempts ran) (final : retryable ran.2 = false) :
      Executed attempts again since ran
  | transient {s' error} (concluded : Concluded attempts (s', some (.error error)))
      (steady : ClientState.steady attempts s' = true)
      (counted : ClientState.sinceRefresh s' = since.map (· + 1)) :
      Executed attempts again since (s', some (.error error))
  | handed {s' requestAgain} (first : again = some requestAgain)
      (steady : ClientState.steady attempts s' = true)
      (counted : ClientState.sinceRefresh s' = some 0) :
      Executed attempts again since (requestAgain s')

theorem handleAxiosRequestError_executed {again : Option (ClientM Json)} {error : AxiosError}
    {token : String} (script : CourierScript) (steady : s.steady attempts = true)
    (side : again = none ↔ s.reauthenticated attempts = true) :
    Executed attempts again s.sinceRefresh (handleAxiosRequestError script again error
      (.businessRequest call token (some (.axiosError error)) :: s)) := by
  have rejected (noAgain : error.isAuthFailure = true → again = none) :
      Executed attempts again s.sinceRefresh
        ((if error.isClientError then .throw (createClientError error.data?)
          else .throw (createServerError error error.data?) : ClientM Json)
            (.businessRequest call token (some (.axiosError error)) :: s)) := by
    split
    next client =>
      refine .final (.now steady rfl (.rejected client ?_)) ?_
      · exact fun failed => side.mp (noAgain failed)
      · exact createClientError_final error.data?
    next server =>
      have server : error.isClientError = false := by simpa using server
      refine .transient (.now steady rfl (.failed server)) ?_ (by simp)
      simp [ClientEvent.goesOn, HttpOutcome.isTransient, server, steady]
  cases failed : error.isAuthFailure with
  | false =>
    simp only [handleAxiosRequestError, failed]
    exact rejected (by simp [failed])
  | true =>
    cases again with
    | none =>
      simp only [handleAxiosRequestError, failed]
      exact rejected fun _ => rfl
    | some requestAgain =>
      have fresh : s.reauthenticated attempts = false := by
        simpa using mt side.mpr (by simp)
      have dropped : ClientState.steady attempts
          (.cacheDel :: .businessRequest call token (some (.axiosError error)) :: s) = true := by
        simp [ClientEvent.goesOn, HttpOutcome.isAuthFailure, failed, fresh, steady]
      simp only [handleAxiosRequestError, failed]
      rw [record_bind, Async.bind_apply]
      have refreshed := getAuthToken_refreshes script dropped
      generalize getAuthToken script true _ = fetched at refreshed
      cases refreshed with
      | granted steady counted => exact .handed rfl steady counted
      | denied concluded final => exact .final concluded final
      | pending concluded => exact .final concluded rfl

theorem executeCall_executed (script : CourierScript) (call : ApiRequest)
    (again : Option (ClientM Json)) (steady : s.steady attempts = true)
    (side : again = none ↔ s.reauthenticated attempts = true) :
    Executed attempts again s.sinceRefresh (executeCall script call again s) := by
  unfold executeCall
  rw [Async.bind_apply]
  have authorized := getAuthToken_authorizes script steady
  generalize getAuthToken script false s = fetched at authorized
  cases authorized with
  | denied concluded final => exact .final concluded final
  | pending concluded => exact .final concluded rfl
  | @granted after token steady counted =>
    simp only [Async.bind_apply, send_apply]
    rw [← counted]
    have side : again = none ↔ after.reauthenticated attempts = true := by
      rw [side, ClientState.reauthenticated, ClientState.reauthenticated, counted]
    cases script.business after.issued with
    | none => exact .final (.now steady rfl .sending) rfl
    | some answer =>
      cases answer with
      | reply data => exact .final (.now steady rfl .answered) rfl
      | exception message => exact .final (.now steady rfl .thrown) rfl
      | axiosError error => exact handleAxiosRequestError_executed script steady side

/-! ## The loops -/

variable {config : ClientConfig}

theorem sinceRefresh_sleep {attempt : Nat} {delayMs : Rat} :
    ClientState.sinceRefresh (.sleep attempt delayMs :: s) = s.sinceRefresh := by
  simp

theorem steady_sleep {attempt : Nat} {delayMs : Rat} :
    ClientState.steady attempts (.sleep attempt delayMs :: s) = s.steady attempts := by
  simp [ClientEvent.goesOn]

structure Advances (attempts : Nat) (ready : ClientState → Prop)
    (ran : ClientState × Option (Except Thrown Json)) : Prop where
  concluded : Concluded attempts ran
  onward : retryable ran.2 = true → ClientState.steady attempts ran.1 = true ∧ ready ran.1

theorem Advances.of_final {ready : ClientState → Prop} {ran : ClientState × Option (Except Thrown Json)}
    (concluded : Concluded attempts ran) (final : retryable ran.2 = false) :
    Advances attempts ready ran where
  concluded := concluded
  onward retried := absurd (final.symm.trans retried) (by decide)

theorem withRetries_advances {fn : ClientM Json} (ready : Nat → ClientState → Prop)
    (asleep : ∀ k s attempt delayMs, ready k s → ready k (.sleep attempt delayMs :: s))
    (attempt : ∀ k s, k < (retryOptions config).attempts → s.steady attempts = true → ready k s →
      Advances attempts (ready (k + 1)) (fn s))
    (steady : s.steady attempts = true) (start : ready 0 s) :
    Advances attempts (ready (retryOptions config).attempts) (withRetries config script fn s) := by
  rw [withRetries_eq]
  refine retryWithBackoff_induct (fun left s ran => ∀ k, k + left = (retryOptions config).attempts →
    s.steady attempts = true → ready k s →
    Advances attempts (ready (retryOptions config).attempts) ran) ?_ ?_ ?_ s 0 (by omega) steady start
  · intro _ left s final k inside steady here
    refine .of_final (attempt k s (by omega) steady here).concluded ?_
    unfold retryable
    split
    next error thrown => exact final error thrown
    next => rfl
  · intro s k inside steady here
    have advances := attempt k s (by omega) steady here
    rwa [inside] at advances
  · intro _ left s s' error delay settled thrown retried rest k inside steady here
    have advances := attempt k s (by omega) steady here
    rw [thrown] at advances
    obtain ⟨steady, here⟩ := advances.onward retried
    exact rest (k + 1) (by omega) (steady_sleep.trans steady) (asleep _ _ _ _ here)

theorem reauthenticated_advances (config : ClientConfig) (script : CourierScript) (call : ApiRequest)
    (steady : s.steady (retryOptions config).attempts = true) (refreshed : s.sinceRefresh = some 0) :
    Advances (retryOptions config).attempts (·.sinceRefresh = some (retryOptions config).attempts)
      (withRetries config script (executeCall script call none) s) := by
  refine withRetries_advances (fun k s => s.sinceRefresh = some k) ?_ ?_ steady refreshed
  · intro k s attempt delayMs counted
    exact sinceRefresh_sleep.trans counted
  · intro k s inside steady counted
    have executed := executeCall_executed script call none steady
      ⟨fun _ => by simp [ClientState.reauthenticated, counted, inside], fun _ => rfl⟩
    rw [counted] at executed
    generalize executeCall script call none s = ran at executed
    cases executed with
    | final concluded final => exact .of_final concluded final
    | transient concluded steady counted => exact ⟨concluded, fun _ => ⟨steady, counted⟩⟩
    | handed first => contradiction

theorem request_advances (config : ClientConfig) (script : CourierScript) (call : ApiRequest)
    (steady : s.steady (retryOptions config).attempts = true) (unrefreshed : s.sinceRefresh = none) :
    Advances (retryOptions config).attempts
      (·.reauthenticated (retryOptions config).attempts = false) (request config script call false s) := by
  refine withRetries_advances (fun _ s => s.reauthenticated (retryOptions config).attempts = false)
    ?_ ?_ steady (by rw [ClientState.reauthenticated, unrefreshed]; rfl)
  · intro k s attempt delayMs fresh
    rwa [ClientState.reauthenticated, sinceRefresh_sleep]
  · intro k s inside steady fresh
    have executed := executeCall_executed script call
      (some (withRetries config script (executeCall script call none))) steady
      ⟨fun none => by contradiction, fun here => absurd (fresh.symm.trans here) (by decide)⟩
    generalize executeCall script call _ s = ran at executed
    cases executed with
    | final concluded final => exact .of_final concluded final
    | transient concluded steady counted =>
      refine ⟨concluded, fun _ => ⟨steady, ?_⟩⟩
      rw [ClientState.reauthenticated] at fresh ⊢
      rw [counted]
      cases earlier : s.sinceRefresh with
      | none => rfl
      | some issued =>
        rw [earlier] at fresh
        simp only [Option.any_some, decide_eq_false_iff_not, Option.map_some] at fresh ⊢
        omega
    | handed first steady counted =>
      cases first
      have again := reauthenticated_advances config script call steady counted
      refine ⟨again.concluded, fun retried => ?_⟩
      obtain ⟨steady, counted⟩ := again.onward retried
      refine ⟨steady, ?_⟩
      rw [ClientState.reauthenticated, counted]
      simp

/-! ## The verdict -/

variable {later earlier later' earlier' : ClientState} {event' : ClientEvent}
  {settled : Option (Except Thrown Json)} {fatal : Fatal}

theorem steady_of_append (steady : ClientState.steady attempts (later ++ earlier) = true) :
    earlier.steady attempts = true := by
  induction later with
  | nil => exact steady
  | cons event later ih =>
    rw [List.cons_append, steady_cons, Bool.and_eq_true] at steady
    exact ih steady.2

theorem eq_of_stops (quiet : ∀ call ∈ later, call.isHttp = false)
    (steady : earlier.steady attempts = true)
    (split : later ++ event :: earlier = later' ++ event' :: earlier')
    (stops : event'.goesOn attempts earlier' = false) :
    later' = later ∧ event' = event ∧ earlier' = earlier := by
  rcases List.append_eq_append_iff.mp split with ⟨between, before, after⟩ | ⟨between, before, after⟩
  · cases between with
    | nil =>
      cases after
      exact ⟨by simpa using before, rfl, rfl⟩
    | cons first between =>
      cases after
      have steady := steady_of_append steady
      rw [steady_cons, stops] at steady
      contradiction
  · cases between with
    | nil =>
      cases after
      exact ⟨by simpa using before.symm, rfl, rfl⟩
    | cons first between =>
      cases after
      have http := quiet event' (by simp [before])
      cases event' <;> simp_all [ClientEvent.isHttp, ClientEvent.goesOn]

theorem fatal_cases (fails : event.fatal? attempts s = some fatal) :
    (∃ outcome, event = .tokenRequest (some outcome) ∧ TokenOutcome.grants (some outcome) = false ∧
      fatal = .tokenFetch) ∨
    (∃ request token message, event = .businessRequest request token (some (.exception message)) ∧
      fatal = .exception) ∨
    ∃ request token error, event = .businessRequest request token (some (.axiosError error)) ∧
      error.isClientError = true ∧
      (error.isAuthFailure = true → s.reauthenticated attempts = true) ∧ fatal = .rejection := by
  unfold ClientEvent.fatal? at fails
  split at fails
  next outcome =>
    split at fails
    · contradiction
    next denied => exact .inl ⟨outcome, rfl, by simpa using denied, (Option.some.inj fails).symm⟩
  next request token message =>
    exact .inr (.inl ⟨request, token, message, rfl, (Option.some.inj fails).symm⟩)
  next request token error =>
    split at fails
    next rejects =>
      obtain ⟨client, final⟩ := Bool.and_eq_true_iff.mp rejects
      refine .inr (.inr ⟨request, token, error, rfl, client, fun failed => ?_, (Option.some.inj fails).symm⟩)
      simpa [failed] using final
    · contradiction
  · contradiction

theorem stops_of_fatal (fails : event.fatal? attempts s = some fatal) :
    event.goesOn attempts s = false := by
  rcases fatal_cases fails with ⟨outcome, rfl, denied, -⟩ | ⟨request, token, message, rfl, -⟩ |
    ⟨request, token, error, rfl, client, final, -⟩
  · exact denied
  · rfl
  · cases failed : error.isAuthFailure with
    | false => simp [ClientEvent.goesOn, HttpOutcome.isTransient, HttpOutcome.isAuthFailure, client, failed]
    | true =>
      simp [ClientEvent.goesOn, HttpOutcome.isTransient, HttpOutcome.isAuthFailure, client,
        final failed]

namespace ClientEvent.Verdict

theorem resolves (verdict : event.Verdict attempts s settled) (data : Json) :
    settled = some (.ok data) ↔
      ∃ request token, event = .businessRequest request token (some (.reply data)) := by
  cases verdict <;> simp

theorem retryable_iff (verdict : event.Verdict attempts s settled) :
    retryable settled = true ↔ ∃ request token outcome,
      event = .businessRequest request token (some outcome) ∧ outcome.isTransient = true := by
  cases verdict with
  | @rejected request token error client final =>
    simp [createClientError_final, HttpOutcome.isTransient, client]
  | failed server =>
    simp [createServerError, HttpOutcome.isTransient, server, Thrown.isRetryable]
  | denied => simp [authError, Thrown.isRetryable]
  | thrown => simp [Thrown.isRetryable, HttpOutcome.isTransient]
  | _ => simp [HttpOutcome.isTransient]

end ClientEvent.Verdict

theorem code_createClientError {rawData : Option Json} :
    (createClientError rawData).code? = some .courierBadRequest ↔
      (extractErrorMessage rawData).isOk = true := by
  cases read : extractErrorMessage rawData with
  | ok found => simp [createClientError_of_read read, Thrown.code?, Except.isOk, Except.toBool]
  | error thrown =>
    simp [createClientError_of_thrown read, Thrown.code?, Except.isOk, Except.toBool]

theorem ClientEvent.Verdict.thrown_of_fatal (verdict : event.Verdict attempts s settled)
    (fails : event.fatal? attempts s = some fatal)
    (readable : ∀ request token error, event = .businessRequest request token (some (.axiosError error)) →
      error.isClientError = true → (extractErrorMessage error.data?).isOk = true) :
    ∃ error, settled = some (.error error) ∧ error.isRetryable = false ∧
      ∀ code, fatal.errorCode? = some code → error.code? = some code := by
  rcases fatal_cases fails with ⟨outcome, rfl, denied, rfl⟩ | ⟨request, token, message, rfl, rfl⟩ |
    ⟨request, token, error, rfl, client, -, rfl⟩
  · cases verdict
    exact ⟨_, rfl, rfl, fun code same => same⟩
  · cases verdict
    exact ⟨_, rfl, rfl, fun code none => by contradiction⟩
  · cases verdict with
    | failed server => exact absurd (client.symm.trans server) (by decide)
    | rejected =>
      refine ⟨_, rfl, createClientError_final error.data?, fun code same => ?_⟩
      rw [← same]
      exact code_createClientError.mpr (readable request token error rfl client)

theorem lastCall?_append (quiet : ∀ call ∈ later, call.isHttp = false) (http : event.isHttp = true) :
    ClientState.lastCall? (later ++ event :: earlier) = some event := by
  have none : later.find? ClientEvent.isHttp = none := by
    simpa [List.find?_eq_none] using quiet
  rw [ClientState.lastCall?, List.find?_append, none, List.find?_cons_of_pos http]
  rfl

theorem rejection?_eq_some {rawData : Option Json} : s.rejection? = some rawData ↔
    ∃ request token error, s.lastCall? = some (.businessRequest request token (some (.axiosError error))) ∧
      error.isClientError = true ∧ error.data? = rawData := by
  unfold ClientState.rejection? ClientState.lastCall?
  split
  next request token error last =>
    rw [last]
    split
    next client => simp [client]
    next server => simp [server]
  next other =>
    refine iff_of_false (by simp) ?_
    rintro ⟨request, token, error, last, -⟩
    exact other request token error last

theorem Concluded.classifies_iff {ran : ClientState × Option (Except Thrown Json)}
    (concluded : Concluded attempts ran) : ran.1.Classifies attempts ran.2 ↔
      ∀ rawData, ran.1.rejection? = some rawData → (extractErrorMessage rawData).isOk = true := by
  obtain @⟨later, event, earlier, settled, quiet, steady, http, verdict⟩ := concluded
  have last : ClientState.lastCall? (later ++ event :: earlier) = some event :=
    lastCall?_append quiet http
  constructor
  · intro classifies rawData rejected
    obtain ⟨request, token, error, same, client, rfl⟩ := rejection?_eq_some.mp rejected
    cases Option.some.inj (last.symm.trans same)
    cases verdict with
    | failed server => exact absurd (client.symm.trans server) (by decide)
    | rejected _ final =>
      have fails : ClientEvent.fatal? attempts earlier
          (.businessRequest request token (some (.axiosError error))) = some .rejection := by
        rw [ClientEvent.fatal?, if_pos]
        cases failed : error.isAuthFailure with
        | false => simp [client]
        | true => simp [client, final failed]
      obtain ⟨-, thrown, same, -, coded⟩ := classifies.givesUp later _ earlier _ rfl fails
      cases same
      exact code_createClientError.mp (coded _ rfl)
  · intro readable
    refine ⟨fun data => ?_, ?_, fun later' event' earlier' fatal split fails => ?_⟩
    · rw [verdict.resolves, last]
      simp
    · rw [verdict.retryable_iff, last]
      simp
    · obtain ⟨rfl, rfl, rfl⟩ := eq_of_stops quiet steady split (stops_of_fatal fails)
      refine ⟨quiet, verdict.thrown_of_fatal fails ?_⟩
      rintro request token error rfl client
      exact readable _ (rejection?_eq_some.mpr ⟨request, token, error, last, client, rfl⟩)

end

/-- However the cache, the token endpoint and the courier answer, the HTTP calls of a request and its
outcome belong together, but where it ends with a rejection whose body `extractErrorMessage` cannot
read. -/
theorem request_classifies_iff (config : ClientConfig) (script : CourierScript) (call : ApiRequest) :
    let ran := request config script call false []
    ran.1.Classifies (retryOptions config).attempts ran.2 ↔
      ∀ rawData, ran.1.rejection? = some rawData → (extractErrorMessage rawData).isOk = true :=
  (request_advances config script call rfl rfl).concluded.classifies_iff

/-- A rejection that cannot be read has no code. -/
theorem request_misclassifies :
    ¬ ∀ (config : ClientConfig) (script : CourierScript) (call : ApiRequest), 1 ≤ config.retryAttempts →
      let ran := request config script call false []
      ran.1.Classifies (retryOptions config).attempts ran.2 := by
  intro claim
  let config : ClientConfig := { retryAttempts := 3, retryDelayMs := 1000 }
  let call : ApiRequest := { method := .post, url := "/services/manifest/" }
  have classifies := claim config (rejectsWith unreadableBody) call (by decide)
  obtain ⟨-, error, thrown, -, coded⟩ := classifies.givesUp [] _ _ .rejection rfl rfl
  have same : error = .error "Cannot convert object to primitive value" := by
    cases thrown
    rfl
  rw [same] at coded
  exact absurd (coded _ rfl) (by decide)

end CourierPlatform
