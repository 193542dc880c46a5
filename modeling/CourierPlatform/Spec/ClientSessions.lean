import CourierPlatform.Proofs.ClientAttempts

/-! The protocol that the client keeps to towards the cache, the token endpoint and the courier while it
serves one request, and what the request may come to where the protocol has come to an end. -/
namespace CourierPlatform
open Js UrbaneBoltClient

def TokenOutcome.body? : TokenOutcome → Option Json
  | reply _ => none
  | failed responseData => responseData

inductive Session where
  /-- An attempt begins. -/
  | ready
  /-- Nothing is cached. -/
  | missing
  /-- The token endpoint has been asked. -/
  | fetching (forced : Bool) (outcome : Option TokenOutcome)
  | holding (token : String)
  /-- The business request has been issued. -/
  | answered (outcome : Option HttpOutcome)
  /-- The courier has refused the token, and the cache has been told. -/
  | dropped
  | forced
  /-- There is no token to be had. -/
  | denied (responseData : Option Json)

namespace Session

inductive Step (call : ApiRequest) : Session → ClientEvent → Session → Prop where
  | cached {token} (nonempty : token ≠ "") :
      Step call ready (.cacheGet (some token)) (holding token)
  | missed {cachedToken} (empty : orDefault cachedToken "" = "") :
      Step call ready (.cacheGet cachedToken) missing
  | fetched {outcome} : Step call missing (.tokenRequest outcome) (fetching false outcome)
  | refetched {outcome} : Step call forced (.tokenRequest outcome) (fetching true outcome)
  | granted {data token} (found : tokenOf data = some token) :
      Step call (fetching false (some (.reply data))) (.cacheSet token) (holding token)
  -- the attempt that follows a refresh reads the token from the cache
  | regranted {data token} (found : tokenOf data = some token) :
      Step call (fetching true (some (.reply data))) (.cacheSet token) ready
  | refused {forced outcome} (none : TokenOutcome.grants (some outcome) = false) :
      Step call (fetching forced (some outcome)) .cacheDel (denied outcome.body?)
  | sent {token outcome} : Step call (holding token) (.businessRequest call token outcome)
      (answered outcome)
  | dropped {error : AxiosError} (failed : error.isAuthFailure = true) :
      Step call (answered (some (.axiosError error))) .cacheDel dropped
  | forced : Step call dropped .forceRefresh forced
  | slept {error : AxiosError} {attempt delayMs} (server : error.isClientError = false) :
      Step call (answered (some (.axiosError error))) (.sleep attempt delayMs) ready

/-- The events of the request so far, the latest first, lead to this session. -/
inductive Runs (call : ApiRequest) : ClientState → Session → Prop where
  | start : Runs call [] ready
  | step {earlier event before after} (runs : Runs call earlier before)
      (step : Step call before event after) : Runs call (event :: earlier) after

inductive Ends : Session → Option (Except Thrown Json) → Prop where
  | fetching {forced} : Ends (fetching forced none) none
  | denied {responseData} : Ends (denied responseData) (some (.error (authError responseData)))
  | pending : Ends (answered none) none
  | replied {data} : Ends (answered (some (.reply data))) (some (.ok data))
  | threw {message} : Ends (answered (some (.exception message))) (some (.error (.error message)))
  | rejected {error : AxiosError} (client : error.isClientError = true) :
      Ends (answered (some (.axiosError error))) (some (.error (createClientError error.data?)))
  | failed {error : AxiosError} (server : error.isClientError = false) :
      Ends (answered (some (.axiosError error))) (some (.error (createServerError error error.data?)))

def Ended (call : ApiRequest) (s : ClientState) (settled : Option (Except Thrown Json)) : Prop :=
  ∃ session, Runs call s session ∧ session.Ends settled

end Session
end CourierPlatform
