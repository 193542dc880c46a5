import CourierPlatform.Library.Machine
import CourierPlatform.Model.UrbaneBoltClient

/-! Concurrent `request` calls of UrbaneBolt clients that share one token cache: each process has one
client, with an `isAuthenticating` of its own. A command to the cache takes effect at some time between
its call and its reply. -/
namespace CourierPlatform
open Js Library UrbaneBoltClient

/-- The attempt of a call's retry loop, and that of the loop of `this.request(…, true)` inside it. -/
structure RetryState where
  attempt : Nat
  reauthenticated : Option Nat := none
deriving DecidableEq

inductive RequestCall where
  /-- `cacheService.get` of `getAuthToken`, on its way. -/
  | cacheGet (retries : RetryState)
  /-- The same, answered. -/
  | cacheRead (retries : RetryState) (cachedToken : Option String)
  /-- `this.isAuthenticating`, as `getAuthToken(forceRefresh)` has returned it. -/
  | authenticating (retries : RetryState) (forceRefresh : Bool) (fetch : Nat)
  /-- `axiosInstance.request` -/
  | sent (retries : RetryState) (token : String)
  /-- `cacheService.del` of `handleAxiosRequestError`, on its way; the token is the refused one. -/
  | cacheDel (retries : RetryState) (token : String)
  | cacheDeleted (retries : RetryState)
  /-- The delay of `retryWithBackoff`. -/
  | sleeping (retries : RetryState)
  | resolved (data : Json)
  | rejected (error : Thrown)

inductive FetchStage where
  | posted
  | cacheSet (token : String)
  | cacheStored (token : String)
  | cacheDel (error : Thrown)
  | cacheDeleted (error : Thrown)
  | settled (result : Except Thrown String)

structure TokenFetch where
  client : Nat
  /-- The call whose `getAuthToken` has started it. -/
  startedBy : Nat
  stage : FetchStage

structure ClientsState where
  /-- The entry under `tokenCacheKey`. -/
  cache : Option String
  isAuthenticating : Nat → Option Nat := fun _ => none
  fetches : List TokenFetch := []
  /-- The calls, each with its client. -/
  calls : List (Nat × RequestCall)
  /-- The business requests sent, by call and token. -/
  requests : List (Nat × String) := []
  /-- The deletions by `handleAxiosRequestError`: the refused token, and the entry that was deleted. -/
  revocations : List (String × Option String) := []

inductive ClientsLabel where
  /-- The business request of a call settles. -/
  | answer (call : Nat) (outcome : HttpOutcome)
  /-- The cache command of a call takes effect. -/
  | execute (call : Nat)
  /-- Anything else that a call awaits settles. -/
  | resume (call : Nat)
  /-- The `POST` of a fetch settles. -/
  | answerFetch (fetch : Nat) (outcome : TokenOutcome)
  | executeFetch (fetch : Nat)
  | resumeFetch (fetch : Nat)
  /-- The lifetime of the entry ends. -/
  | expire

/-- `!(attempt >= maxAttempts || !shouldRetry(error, attempt))` -/
def RetryOptions.goesOn {ε : Type} (options : RetryOptions ε) (error : ε) (attempt : Nat) : Bool :=
  !(attempt ≥ options.maxAttempts || !options.shouldRetry error attempt)

def RequestCall.attemptFailed (config : ClientConfig) (attempt : Nat) (error : Thrown) : RequestCall :=
  if (retryOptions config).goesOn error attempt then .sleeping { attempt := attempt + 1 }
  else .rejected error

/-- `executeCall` has thrown. What the inner loop throws in its turn comes to the call's own. -/
def RequestCall.failed (config : ClientConfig) (retries : RetryState) (error : Thrown) : RequestCall :=
  match retries.reauthenticated with
  | none => .attemptFailed config retries.attempt error
  | some attempt =>
    if (retryOptions config).goesOn error attempt then
      .sleeping { retries with reauthenticated := some (attempt + 1) }
    else .attemptFailed config retries.attempt error

def RequestCall.answered (config : ClientConfig) (retries : RetryState) (token : String) :
    HttpOutcome → RequestCall
  | .reply data => .resolved data
  | .exception message => .failed config retries (.error message)
  | .axiosError error =>
    if error.isAuthFailure && retries.reauthenticated.isNone then .cacheDel retries token
    else if error.isClientError then .failed config retries (createClientError error.data?)
    else .failed config retries (createServerError error error.data?)

def FetchStage.answered : TokenOutcome → FetchStage
  | .failed responseData => .cacheDel (authError responseData)
  | .reply data =>
    match tokenOf data with
    | none => .cacheDel (authError none)
    | some stringToken => .cacheSet stringToken

namespace ClientsState

variable (config : ClientConfig) (s : ClientsState)

def setCall (i client : Nat) (call : RequestCall) : ClientsState :=
  { s with calls := s.calls.set i (client, call) }

def setFetch (k : Nat) (fetch : TokenFetch) : ClientsState :=
  { s with fetches := s.fetches.set k fetch }

def send (i client : Nat) (retries : RetryState) (token : String) : ClientsState :=
  { s.setCall i client (.sent retries token) with requests := (i, token) :: s.requests }

def authenticate (i client : Nat) (retries : RetryState) (forceRefresh : Bool) : ClientsState :=
  match s.isAuthenticating client with
  | some fetch => s.setCall i client (.authenticating retries forceRefresh fetch)
  | none =>
    let fetch := s.fetches.length
    { s.setCall i client (.authenticating retries forceRefresh fetch) with
      isAuthenticating := fun c => if c = client then some fetch else s.isAuthenticating c
      fetches := s.fetches ++ [⟨client, i, .posted⟩] }

def settleFetch (k client startedBy : Nat) (result : Except Thrown String) : ClientsState :=
  { s.setFetch k ⟨client, startedBy, .settled result⟩ with
    isAuthenticating := fun c => if c = client then none else s.isAuthenticating c }

def resumeCall (i client : Nat) : RequestCall → Option ClientsState
  | .cacheRead retries cachedToken =>
    let token := orDefault cachedToken ""
    some (if token ≠ "" then s.send i client retries token else s.authenticate i client retries false)
  | .authenticating retries forceRefresh fetch =>
    match s.fetches[fetch]? with
    | some ⟨_, _, .settled (.ok token)⟩ =>
      some <|
        if forceRefresh then s.setCall i client (.cacheGet { retries with reauthenticated := some 1 })
        else s.send i client retries token
    | some ⟨_, _, .settled (.error error)⟩ => some (s.setCall i client (.failed config retries error))
    | _ => none
  | .cacheDeleted retries => some (s.authenticate i client retries true)
  | .sleeping retries => some (s.setCall i client (.cacheGet retries))
  | _ => none

def next : ClientsLabel → Option ClientsState
  | .answer i outcome =>
    match s.calls[i]? with
    | some (client, .sent retries token) =>
      some (s.setCall i client (.answered config retries token outcome))
    | _ => none
  | .execute i =>
    match s.calls[i]? with
    | some (client, .cacheGet retries) => some (s.setCall i client (.cacheRead retries s.cache))
    | some (client, .cacheDel retries token) =>
      some { s.setCall i client (.cacheDeleted retries) with
        cache := none
        revocations := (token, s.cache) :: s.revocations }
    | _ => none
  | .resume i => (s.calls[i]?).bind fun call => s.resumeCall config i call.1 call.2
  | .answerFetch k outcome =>
    match s.fetches[k]? with
    | some ⟨client, startedBy, .posted⟩ => some (s.setFetch k ⟨client, startedBy, .answered outcome⟩)
    | _ => none
  | .executeFetch k =>
    match s.fetches[k]? with
    | some ⟨client, startedBy, .cacheSet token⟩ =>
      some { s.setFetch k ⟨client, startedBy, .cacheStored token⟩ with cache := some token }
    | some ⟨client, startedBy, .cacheDel error⟩ =>
      some { s.setFetch k ⟨client, startedBy, .cacheDeleted error⟩ with cache := none }
    | _ => none
  | .resumeFetch k =>
    match s.fetches[k]? with
    | some ⟨client, startedBy, .cacheStored token⟩ =>
      some (s.settleFetch k client startedBy (.ok token))
    | some ⟨client, startedBy, .cacheDeleted error⟩ =>
      some (s.settleFetch k client startedBy (.error error))
    | _ => none
  | .expire => some { s with cache := none }

end ClientsState

def clients (config : ClientConfig) : Machine ClientsState ClientsLabel :=
  ⟨fun s l => s.next config l⟩

end CourierPlatform
