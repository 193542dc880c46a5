import CourierPlatform.Model.UrbaneBoltClient
import CourierPlatform.Proofs.Retry

/-! One attempt of the client, by what the script answers it, and the retry loop of a request that may
not authenticate again. -/
namespace CourierPlatform
open Js UrbaneBoltClient

def TokenOutcome.grants : Option TokenOutcome → Bool
  | some (reply data) => (tokenOf data).isSome
  | _ => false

def HttpOutcome.isTransient : HttpOutcome → Bool
  | axiosError error => !error.isClientError
  | _ => false

def HttpOutcome.isAuthFailure : HttpOutcome → Bool
  | axiosError error => error.isAuthFailure
  | _ => false

theorem AxiosError.isClientError_of_isAuthFailure {error : AxiosError} (h : error.isAuthFailure = true) :
    error.isClientError = true := by
  unfold isAuthFailure at h
  unfold isClientError
  simp only [Bool.or_eq_true, decide_eq_true_eq] at h
  rcases h with status | status <;> simp [status]

namespace CourierScript

def authorizes (script : CourierScript) (k : Nat) : Bool :=
  orDefault (script.cached k) "" ≠ "" || TokenOutcome.grants (script.fetched k)

def refreshes (script : CourierScript) (k : Nat) : Bool := TokenOutcome.grants (script.refreshed k)

def transient (script : CourierScript) (k : Nat) : Bool :=
  (script.business k).any HttpOutcome.isTransient

def authFailure (script : CourierScript) (k : Nat) : Bool :=
  (script.business k).any HttpOutcome.isAuthFailure

def retried (script : CourierScript) (k : Nat) : Bool := script.authorizes k && script.transient k

theorem retried_iff {script : CourierScript} {k : Nat} : script.retried k = true ↔
    script.authorizes k = true ∧ script.transient k = true := Bool.and_eq_true_iff

theorem transient_of_authFailure {script : CourierScript} {k : Nat}
    (failed : script.authFailure k = true) : script.transient k = false := by
  unfold authFailure at failed
  unfold transient
  cases outcome : script.business k with
  | none => rfl
  | some answer =>
    rw [outcome, Option.any_some] at failed
    cases answer with
    | reply data => rfl
    | exception message => rfl
    | axiosError error =>
      unfold HttpOutcome.isAuthFailure at failed
      simp [HttpOutcome.isTransient, AxiosError.isClientError_of_isAuthFailure failed]

theorem retried_of_calm {script : CourierScript} {k : Nat} (calm : script.transient k = false) :
    script.retried k = false := by
  simp [retried, calm]

end CourierScript

/-- A token is always cached, and the endpoint always gives one. -/
def steadyTokens (business : Nat → Option HttpOutcome) : CourierScript where
  cached _ := some "token"
  fetched _ := none
  refreshed _ := some (.reply (.object [("access_token", .string "token")]))
  business
  random _ := 0

@[simp] def retryable {α : Type} : Option (Except Thrown α) → Bool
  | some (.error error) => error.isRetryable
  | _ => false

namespace UrbaneBoltClient

variable {script : CourierScript} {call : ApiRequest} {config : ClientConfig} {s : ClientState}

@[simp] theorem issued_cons (event : ClientEvent) (s : ClientState) :
    ClientState.issued (event :: s) = s.issued + if event.isBusinessRequest then 1 else 0 :=
  List.countP_cons

@[simp] theorem refreshes_cons (event : ClientEvent) (s : ClientState) :
    ClientState.refreshes (event :: s) = s.refreshes + if event.isForceRefresh then 1 else 0 :=
  List.countP_cons

@[simp] theorem record_bind {α : Type} (event : ClientEvent) (rest : Unit → ClientM α) (s : ClientState) :
    (record event >>= rest) s = rest () (event :: s) := rfl

inductive Fetched (issued refreshes : Nat) :
    Bool → ClientState × Option (Except Thrown String) → Prop where
  | granted {s : ClientState} (token : String) (same : s.issued = issued)
      (counted : s.refreshes = refreshes) : Fetched issued refreshes true (s, some (.ok token))
  | denied {s : ClientState} {error : Thrown} (same : s.issued = issued)
      (counted : s.refreshes = refreshes) (final : error.isRetryable = false) :
      Fetched issued refreshes false (s, some (.error error))
  | pending {s : ClientState} (same : s.issued = issued) (counted : s.refreshes = refreshes) :
      Fetched issued refreshes false (s, none)

theorem fetchAndStoreNewAuthToken_fetched (outcome : Option TokenOutcome) (s : ClientState) :
    Fetched s.issued s.refreshes (TokenOutcome.grants outcome) (fetchAndStoreNewAuthToken outcome s) := by
  unfold fetchAndStoreNewAuthToken
  rw [record_bind]
  cases outcome with
  | none => apply Fetched.pending <;> simp
  | some outcome =>
    cases outcome with
    | failed responseData => apply Fetched.denied <;> simp [authError, Thrown.isRetryable]
    | reply data =>
      cases found : tokenOf data with
      | none =>
        simp only [TokenOutcome.grants, found, Option.isSome_none]
        apply Fetched.denied <;> simp [authError, Thrown.isRetryable]
      | some token =>
        simp only [TokenOutcome.grants, found, Option.isSome_some]
        apply Fetched.granted <;> simp

theorem getAuthToken_fetched (script : CourierScript) (s : ClientState) :
    Fetched s.issued s.refreshes (script.authorizes s.issued) (getAuthToken script false s) := by
  unfold getAuthToken CourierScript.authorizes
  simp only [Async.gets_bind, Bool.false_eq_true, if_false, record_bind]
  by_cases cached : orDefault (script.cached s.issued) "" = ""
  · have fetched := fetchAndStoreNewAuthToken_fetched (script.fetched s.issued)
      (.cacheGet (script.cached s.issued) :: s)
    simpa [cached] using fetched
  · simp only [cached, ne_eq, not_false_eq_true, decide_true, Bool.true_or, if_true]
    apply Fetched.granted <;> simp

theorem getAuthToken_forced (script : CourierScript) (s : ClientState) :
    Fetched s.issued (s.refreshes + 1) (script.refreshes s.issued) (getAuthToken script true s) := by
  have fetched := fetchAndStoreNewAuthToken_fetched (script.refreshed s.issued) (.forceRefresh :: s)
  simp only [issued_cons, refreshes_cons] at fetched
  exact fetched

/-- What one `executeCall` comes to. `again` is the request with `hasRetriedAuth`, if it may be made. -/
inductive Attempt (script : CourierScript) (again : Option (ClientM Json)) (s : ClientState) :
    ClientState × Option (Except Thrown Json) → Prop where
  | unauthorized {s' : ClientState} {settled} (denied : script.authorizes s.issued = false)
      (issued : s'.issued = s.issued) (refreshes : s'.refreshes = s.refreshes)
      (final : retryable settled = false) : Attempt script again s (s', settled)
  | answered {s' : ClientState} {settled} (authorized : script.authorizes s.issued = true)
      (calm : script.transient s.issued = false)
      (noAgain : script.authFailure s.issued = true → again = none) (issued : s'.issued = s.issued + 1)
      (refreshes : s'.refreshes = s.refreshes) (final : retryable settled = false) :
      Attempt script again s (s', settled)
  | failed {s' : ClientState} {error} (retried : script.retried s.issued = true)
      (issued : s'.issued = s.issued + 1) (refreshes : s'.refreshes = s.refreshes)
      (retryable : error.isRetryable = true) : Attempt script again s (s', some (.error error))
  | notRefreshed {s' : ClientState} {settled} (authorized : script.authorizes s.issued = true)
      (calm : script.transient s.issued = false) (first : again ≠ none)
      (authFailure : script.authFailure s.issued = true)
      (denied : script.refreshes (s.issued + 1) = false) (issued : s'.issued = s.issued + 1)
      (refreshes : s'.refreshes = s.refreshes + 1) (final : retryable settled = false) :
      Attempt script again s (s', settled)
  | refreshed {s' : ClientState} {requestAgain} (first : again = some requestAgain)
      (authorized : script.authorizes s.issued = true)
      (authFailure : script.authFailure s.issued = true)
      (granted : script.refreshes (s.issued + 1) = true) (issued : s'.issued = s.issued + 1)
      (refreshes : s'.refreshes = s.refreshes + 1) : Attempt script again s (requestAgain s')

theorem extractErrorMessage_thrown {rawData : Option Json} {thrown : Thrown}
    (h : extractErrorMessage rawData = .error thrown) :
    thrown = .error "Cannot convert object to primitive value" := by
  unfold extractErrorMessage at h
  split at h
  · contradiction
  · split at h
    · contradiction
    · contradiction
    · contradiction
    · split at h
      · contradiction
      · cases h
        rfl
    · contradiction
  · contradiction

theorem createClientError_final (rawData : Option Json) :
    (createClientError rawData).isRetryable = false := by
  unfold createClientError
  split
  next thrown read => exact extractErrorMessage_thrown read ▸ rfl
  next => rfl

theorem send_apply (script : CourierScript) (call : ApiRequest) (token : String) (s : ClientState) :
    send script call token s =
      (.businessRequest call token (script.business s.issued) :: s,
        (script.business s.issued).map .ok) := by
  unfold send
  rw [Async.gets_bind, record_bind]
  cases script.business s.issued <;> rfl

theorem handleAxiosRequestError_attempt {again : Option (ClientM Json)} {error : AxiosError}
    {s' : ClientState} (authorized : script.authorizes s.issued = true)
    (outcome : script.business s.issued = some (.axiosError error))
    (issued : s'.issued = s.issued + 1) (refreshes : s'.refreshes = s.refreshes) :
    Attempt script again s (handleAxiosRequestError script again error s') := by
  have transient : script.transient s.issued = !error.isClientError := by
    simp [CourierScript.transient, outcome, HttpOutcome.isTransient]
  have same : script.authFailure s.issued = error.isAuthFailure := by
    simp [CourierScript.authFailure, outcome, HttpOutcome.isAuthFailure]
  have rejected (noAgain : error.isAuthFailure = true → again = none) : Attempt script again s
      ((if error.isClientError then .throw (createClientError error.data?)
        else .throw (createServerError error error.data?) : ClientM Json) s') := by
    split
    next client =>
      apply Attempt.answered authorized (by rw [transient, client]; rfl) (same ▸ noAgain) issued
        refreshes
      exact createClientError_final error.data?
    next client =>
      apply Attempt.failed (by simp [CourierScript.retried, authorized, transient, client]) issued
        refreshes
      rfl
  cases failed : error.isAuthFailure with
  | false =>
    simp only [handleAxiosRequestError, failed]
    exact rejected (by simp [failed])
  | true =>
    have calm : script.transient s.issued = false := by
      rw [transient, AxiosError.isClientError_of_isAuthFailure failed]
      rfl
    cases again with
    | none =>
      simp only [handleAxiosRequestError, failed]
      exact rejected fun _ => rfl
    | some requestAgain =>
      simp only [handleAxiosRequestError, failed]
      rw [record_bind, Async.bind_apply]
      have fetched := getAuthToken_forced script (.cacheDel :: s')
      simp only [issued_cons, refreshes_cons, ClientEvent.isBusinessRequest,
        ClientEvent.isForceRefresh, Bool.false_eq_true, if_false, Nat.add_zero, issued, refreshes]
        at fetched
      generalize granted : script.refreshes (s.issued + 1) = grants,
        getAuthToken script true (.cacheDel :: s') = token at fetched
      cases fetched with
      | denied issued counted final =>
        apply Attempt.notRefreshed authorized calm (by simp) (same.trans failed) granted issued counted
        exact final
      | pending issued counted =>
        apply Attempt.notRefreshed authorized calm (by simp) (same.trans failed) granted issued counted
        rfl
      | granted token issued counted =>
        exact .refreshed rfl authorized (same.trans failed) granted issued counted

theorem executeCall_attempt (script : CourierScript) (call : ApiRequest)
    (again : Option (ClientM Json)) (s : ClientState) :
    Attempt script again s (executeCall script call again s) := by
  unfold executeCall
  rw [Async.bind_apply]
  have fetched := getAuthToken_fetched script s
  generalize authorized : script.authorizes s.issued = authorizes,
    getAuthToken script false s = token at fetched
  cases fetched with
  | denied same counted final => exact .unauthorized authorized same counted final
  | pending same counted => exact .unauthorized authorized same counted rfl
  | @granted after token same counted =>
    simp only [Async.bind_apply, send_apply, same]
    have issued : ClientState.issued (.businessRequest call token (script.business s.issued) :: after) =
        s.issued + 1 := by
      simp [same]
    have refreshes : ClientState.refreshes
        (.businessRequest call token (script.business s.issued) :: after) = s.refreshes := by
      simp [counted]
    cases outcome : script.business s.issued with
    | none =>
      rw [outcome] at issued refreshes
      exact .answered authorized (by simp [CourierScript.transient, outcome])
        (by simp [CourierScript.authFailure, outcome]) issued refreshes rfl
    | some answer =>
      rw [outcome] at issued refreshes
      cases answer with
      | reply data =>
        exact .answered authorized
          (by simp [CourierScript.transient, outcome, HttpOutcome.isTransient])
          (by simp [CourierScript.authFailure, outcome, HttpOutcome.isAuthFailure]) issued refreshes rfl
      | exception message =>
        exact .answered authorized
          (by simp [CourierScript.transient, outcome, HttpOutcome.isTransient])
          (by simp [CourierScript.authFailure, outcome, HttpOutcome.isAuthFailure]) issued refreshes rfl
      | axiosError error => exact handleAxiosRequestError_attempt authorized outcome issued refreshes

theorem withRetries_induct {fn : ClientM Json}
    (motive : Nat → ClientState → ClientState × Option (Except Thrown Json) → Prop)
    (stops : ∀ left s, retryable (fn s).2 = false → motive (left + 1) s (fn s))
    (last : ∀ s, motive 1 s (fn s))
    (again : ∀ left s s' error s'' settled, fn s = (s', some (.error error)) →
      error.isRetryable = true → ClientState.issued s'' = ClientState.issued s' →
      ClientState.refreshes s'' = ClientState.refreshes s' → motive (left + 1) s'' settled →
      motive (left + 2) s settled)
    (s : ClientState) :
    motive (retryOptions config).attempts s (withRetries config script fn s) := by
  rw [withRetries_eq]
  apply retryWithBackoff_induct motive
  · intro attempt left s final
    apply stops
    unfold retryable
    split
    next error here => exact final error here
    next => rfl
  · exact last
  · intro attempt left s s' error delay settled thrown retried rest
    exact again left s s' error _ settled thrown retried (by simp) (by simp) rest

/-- What a retry loop without re-authentication comes to: it goes on as long as requests are sent and
fail transiently, and at most `n` times. -/
structure Streak (script : CourierScript) (n : Nat) (s s' : ClientState)
    (settled : Option (Except Thrown Json)) : Prop where
  grows : s.issued ≤ s'.issued
  bounded : s'.issued ≤ s.issued + n
  refreshes : s'.refreshes = s.refreshes
  sent : ∀ j, s.issued ≤ j → j < s'.issued → script.authorizes j = true
  retried : ∀ j, s.issued ≤ j → j + 1 < s'.issued → script.retried j = true
  goesOn : ∀ i < n, (∀ j, s.issued ≤ j → j < s.issued + i → script.retried j = true) →
    script.authorizes (s.issued + i) = true → s.issued + i < s'.issued
  exhausted : retryable settled = true ↔
    ∀ j, s.issued ≤ j → j < s.issued + n → script.retried j = true

theorem Streak.of_final {s' : ClientState} {settled : Option (Except Thrown Json)} {left : Nat}
    (calm : script.retried s.issued = false) (final : retryable settled = false)
    (issued : s'.issued = s.issued + if script.authorizes s.issued then 1 else 0)
    (refreshes : s'.refreshes = s.refreshes) : Streak script (left + 1) s s' settled where
  grows := by
    omega
  bounded := by
    split at issued <;> omega
  refreshes := refreshes
  sent := by
    intro j from_ before
    split at issued
    next authorized =>
      have same : j = s.issued := by omega
      rwa [same]
    next => omega
  retried := by
    intro j from_ before
    split at issued <;> omega
  goesOn := by
    intro i inside earlier authorized
    cases i with
    | zero =>
      rw [Nat.add_zero] at authorized
      rw [if_pos authorized] at issued
      omega
    | succ i =>
      rw [earlier s.issued (le_refl _) (by omega)] at calm
      contradiction
  exhausted := by
    rw [final]
    constructor
    · intro impossible
      contradiction
    · intro all
      rw [all s.issued (le_refl _) (by omega)] at calm
      contradiction

theorem Streak.of_last {s' : ClientState} {error : Thrown} (retried : script.retried s.issued = true)
    (thrown : error.isRetryable = true) (issued : s'.issued = s.issued + 1)
    (refreshes : s'.refreshes = s.refreshes) : Streak script 1 s s' (some (.error error)) where
  grows := by
    omega
  bounded := by
    omega
  refreshes := refreshes
  sent := by
    intro j from_ before
    have same : j = s.issued := by omega
    exact same ▸ (CourierScript.retried_iff.mp retried).1
  retried := by
    intro j from_ before
    omega
  goesOn := by
    intro i inside earlier authorized
    omega
  exhausted := by
    constructor
    · intro here j from_ before
      have same : j = s.issued := by omega
      exact same ▸ retried
    · intro all
      exact thrown

theorem Streak.again {first s' : ClientState} {settled : Option (Except Thrown Json)} {n : Nat}
    (retried : script.retried s.issued = true) (issued : first.issued = s.issued + 1)
    (refreshes : first.refreshes = s.refreshes) (rest : Streak script n first s' settled) :
    Streak script (n + 1) s s' settled where
  grows := by
    have grows := rest.grows
    omega
  bounded := by
    have bounded := rest.bounded
    omega
  refreshes := rest.refreshes.trans refreshes
  sent := by
    intro j from_ before
    by_cases same : j = s.issued
    · exact same ▸ (CourierScript.retried_iff.mp retried).1
    · exact rest.sent j (by omega) before
  retried := by
    intro j from_ before
    by_cases same : j = s.issued
    · exact same ▸ retried
    · exact rest.retried j (by omega) before
  goesOn := by
    intro i inside earlier authorized
    have grows := rest.grows
    cases i with
    | zero => omega
    | succ i =>
      have place : s.issued + (i + 1) = first.issued + i := by omega
      rw [place] at authorized ⊢
      exact rest.goesOn i (by omega) (fun j after before => earlier j (by omega) (by omega)) authorized
  exhausted := by
    rw [rest.exhausted]
    constructor
    · intro all j from_ before
      by_cases same : j = s.issued
      · exact same ▸ retried
      · exact all j (by omega) (by omega)
    · intro all j from_ before
      exact all j (by omega) (by omega)

theorem reauthenticated_streak (config : ClientConfig) (script : CourierScript) (call : ApiRequest)
    (s : ClientState) : Streak script (retryOptions config).attempts s
      (withRetries config script (executeCall script call none) s).1
      (withRetries config script (executeCall script call none) s).2 := by
  apply withRetries_induct fun n s settled => Streak script n s settled.1 settled.2
  · intro left s final
    have attempt := executeCall_attempt script call none s
    generalize executeCall script call none s = settled at attempt final
    cases attempt with
    | unauthorized denied issued refreshes =>
      exact .of_final (by simp [CourierScript.retried, denied]) final (by simpa [denied]) refreshes
    | answered authorized calm noAgain issued refreshes =>
      exact .of_final (CourierScript.retried_of_calm calm) final (by simpa [authorized]) refreshes
    | failed retried issued refreshes thrown =>
      rw [retryable, thrown] at final
      contradiction
    | notRefreshed authorized calm first => exact absurd rfl first
    | refreshed first => contradiction
  · intro s
    have attempt := executeCall_attempt script call none s
    generalize executeCall script call none s = settled at attempt
    cases attempt with
    | unauthorized denied issued refreshes final =>
      exact .of_final (by simp [CourierScript.retried, denied]) final (by simpa [denied]) refreshes
    | answered authorized calm noAgain issued refreshes final =>
      exact .of_final (CourierScript.retried_of_calm calm) final (by simpa [authorized]) refreshes
    | failed retried issued refreshes thrown => exact .of_last retried thrown issued refreshes
    | notRefreshed authorized calm first => exact absurd rfl first
    | refreshed first => contradiction
  · intro left s s' error s'' settled thrown retried issued refreshes rest
    have attempt := executeCall_attempt script call none s
    generalize executeCall script call none s = ran at attempt thrown
    cases attempt with
    | failed sent counted same =>
      cases thrown
      exact .again sent (issued.trans counted) (refreshes.trans same) rest
    | unauthorized denied counted same final =>
      cases thrown
      cases retried.symm.trans final
    | answered authorized calm noAgain counted same final =>
      cases thrown
      cases retried.symm.trans final
    | notRefreshed authorized calm first => exact absurd rfl first
    | refreshed first => contradiction

end UrbaneBoltClient
end CourierPlatform
