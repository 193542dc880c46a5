import CourierPlatform.Model.ConcurrentClient

/-! `getAuthToken` of one `UrbaneBoltClient`: any number of calls, which interleave at their awaits.
The cache is shared with other processes, so what a call reads there is left open. -/
namespace CourierPlatform
open Js Library UrbaneBoltClient

inductive TokenCall where
  /-- `cacheService.get` -/
  | cacheGet
  /-- `this.isAuthenticating`, as it has been returned. -/
  | awaiting (fetch : Nat)
  | settled (result : Except Thrown String)

structure TokenClient where
  isAuthenticating : Option Nat := none
  /-- The runs of `fetchAndStoreNewAuthToken`, in the order in which they began. -/
  fetches : List FetchStage := []
  calls : List TokenCall := []

inductive TokenLabel where
  | getAuthToken (forceRefresh : Bool)
  /-- `cacheService.get` of a call resolves. -/
  | cacheRead (call : Nat) (cachedToken : Option String)
  /-- The promise that a call has returned settles. -/
  | resume (call : Nat)
  /-- The `POST` of a fetch settles. -/
  | answerFetch (fetch : Nat) (outcome : TokenOutcome)
  /-- The cache command of a fetch takes effect. -/
  | executeFetch (fetch : Nat)
  | resumeFetch (fetch : Nat)

namespace TokenClient

variable (c : TokenClient)

def setCall (i : Nat) (call : TokenCall) : TokenClient := { c with calls := c.calls.set i call }

def setFetch (k : Nat) (stage : FetchStage) : TokenClient :=
  { c with fetches := c.fetches.set k stage }

def authenticate : TokenClient × Nat :=
  match c.isAuthenticating with
  | some fetch => (c, fetch)
  | none =>
    let fetch := c.fetches.length
    ({ c with isAuthenticating := some fetch, fetches := c.fetches ++ [.posted] }, fetch)

def settleFetch (k : Nat) (result : Except Thrown String) : TokenClient :=
  { c.setFetch k (.settled result) with isAuthenticating := none }

def next : TokenLabel → Option TokenClient
  | .getAuthToken false => some { c with calls := c.calls ++ [.cacheGet] }
  | .getAuthToken true =>
    let authenticated := c.authenticate
    some { authenticated.1 with calls := c.calls ++ [.awaiting authenticated.2] }
  | .cacheRead i cachedToken =>
    match c.calls[i]? with
    | some .cacheGet =>
      let token := orDefault cachedToken ""
      if token ≠ "" then some (c.setCall i (.settled (.ok token)))
      else
        let authenticated := c.authenticate
        some (authenticated.1.setCall i (.awaiting authenticated.2))
    | _ => none
  | .resume i =>
    match c.calls[i]? with
    | some (.awaiting fetch) =>
      match c.fetches[fetch]? with
      | some (.settled result) => some (c.setCall i (.settled result))
      | _ => none
    | _ => none
  | .answerFetch k outcome =>
    match c.fetches[k]? with
    | some .posted => some (c.setFetch k (.answered outcome))
    | _ => none
  | .executeFetch k =>
    match c.fetches[k]? with
    | some (.cacheSet token) => some (c.setFetch k (.cacheStored token))
    | some (.cacheDel error) => some (c.setFetch k (.cacheDeleted error))
    | _ => none
  | .resumeFetch k =>
    match c.fetches[k]? with
    | some (.cacheStored token) => some (c.settleFetch k (.ok token))
    | some (.cacheDeleted error) => some (c.settleFetch k (.error error))
    | _ => none

end TokenClient

def tokenClient : Machine TokenClient TokenLabel := ⟨TokenClient.next⟩

end CourierPlatform
