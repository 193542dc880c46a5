import CourierPlatform.Model.ConcurrentClient

/-! Calls under way with a token that the courier expires, and the refresh that is to follow. -/
namespace CourierPlatform
open UrbaneBoltClient

/-- The courier has expired `old`, and no other token. -/
def HttpOutcome.afterExpiry (old token : String) : HttpOutcome → Bool
  | axiosError error => if token = old then error.status? = some 401 else !error.isAuthFailure
  | _ => token ≠ old

def TokenFetch.stored? (fetch : TokenFetch) : Option String :=
  match fetch.stage with
  | .cacheStored token => some token
  | .settled (.ok token) => some token
  | _ => none

namespace ClientsState

def sentWith (old : String) (cached : Bool) (calls : List (Nat × Nat)) : ClientsState where
  cache := if cached then some old else none
  calls := calls.map fun call => (call.1, .sent { attempt := call.2 } old)

def afterExpiry (old : String) (s : ClientsState) : ClientsLabel → Bool
  | .answer i outcome =>
    match s.calls[i]? with
    | some (_, .sent _ token) => outcome.afterExpiry old token
    | _ => true
  | _ => true

def resent (s : ClientsState) (i : Nat) : Bool := s.requests.any fun request => request.1 = i

/-- One `POST` until all calls have been sent once more, and no token deleted but the expired one. -/
structure OneRefresh (old : String) (s : ClientsState) : Prop where
  most : (∃ i < s.calls.length, s.resent i = false) → s.fetches.length ≤ 1
  least : s.calls ≠ [] → (∀ i < s.calls.length, s.resent i = true) → 1 ≤ s.fetches.length
  kept : ∀ token, (old, some token) ∈ s.revocations → token = old

def unrenewed (s : ClientsState) : Bool := s.fetches.all fun fetch => fetch.stored?.isNone

/-- A refusal is dealt with in time: its `del` comes before any renewed token, and its
`getAuthToken(true)` comes first of all or while the fetch of its client is under way. The renewed
token lasts, and is no empty text. -/
def inTime (s : ClientsState) : ClientsLabel → Bool
  | .execute i =>
    match s.calls[i]? with
    | some (_, .cacheDel ..) => s.unrenewed
    | _ => true
  | .resume i =>
    match s.calls[i]? with
    | some (client, .cacheDeleted _) => s.fetches.isEmpty || (s.isAuthenticating client).isSome
    | _ => true
  | .answerFetch _ (.reply data) => tokenOf data ≠ some ""
  | .expire => s.unrenewed
  | _ => true

end ClientsState
end CourierPlatform
