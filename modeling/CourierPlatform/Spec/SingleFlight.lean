import CourierPlatform.Model.TokenClient

/-! One fetch at a time, and one result for all the calls that wait for it. -/
namespace CourierPlatform
open Js

def FetchStage.isSettled : FetchStage → Bool
  | settled _ => true
  | _ => false

def TokenLabel.looks (c : TokenClient) : TokenLabel → Option Nat
  | getAuthToken true => some c.calls.length
  | cacheRead i cachedToken => if orDefault cachedToken "" = "" then some i else none
  | _ => none

namespace TokenClient

/-- The fetch has begun and not settled; its `POST` is outstanding during a part of this time. -/
def running (c : TokenClient) (k : Nat) : Bool := c.fetches[k]?.any fun stage => !stage.isSettled

/-- The call gets what the fetch comes to, and gets it as soon as the fetch has settled. -/
inductive Gets (c : TokenClient) (i k : Nat) : Prop where
  | waiting (here : c.calls[i]? = some (.awaiting k))
      (resumes : ∀ result, c.fetches[k]? = some (.settled result) →
        tokenClient.next c (.resume i) = some (c.setCall i (.settled result)))
  | given {result} (settled : c.fetches[k]? = some (.settled result))
      (here : c.calls[i]? = some (.settled result))

structure SingleFlight (c : TokenClient) : Prop where
  single : ∀ j k, c.running j = true → c.running k = true → j = k
  /-- A call that finds a fetch outstanding starts none and gets what that one comes to. -/
  joins : ∀ l t i k, tokenClient.next c l = some t → l.looks c = some i → c.running k = true →
    t.fetches = c.fetches ∧ ∀ u, tokenClient.Reaches (fun _ _ => True) t u → u.Gets i k
  /-- A call that finds none starts one, whatever the earlier ones have come to. -/
  starts : ∀ l t i, tokenClient.next c l = some t → l.looks c = some i →
    (∀ k, c.running k = false) → t.fetches = c.fetches ++ [.posted] ∧
      ∀ u, tokenClient.Reaches (fun _ _ => True) t u → u.Gets i c.fetches.length
  /-- From the step in which a fetch settles until another one has begun. -/
  cleared : ∀ l t k, tokenClient.next c l = some t → c.running k = true → t.running k = false →
    ∀ u, tokenClient.Reaches (fun _ _ => True) t u → u.fetches.length = t.fetches.length →
      u.isAuthenticating = none

end TokenClient
end CourierPlatform
