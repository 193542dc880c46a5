import CourierPlatform.Model.ConcurrentClient

/-! What one step of the clients can do, case by case. -/
namespace CourierPlatform
open Js Library UrbaneBoltClient

inductive ClientsState.Moves (config : ClientConfig) (s : ClientsState) :
    ClientsLabel → ClientsState → Prop where
  | answered {i client retries token outcome}
      (awaiting : s.calls[i]? = some (client, .sent retries token)) :
      Moves config s (.answer i outcome)
        (s.setCall i client (.answered config retries token outcome))
  | read {i client retries} (awaiting : s.calls[i]? = some (client, .cacheGet retries)) :
      Moves config s (.execute i) (s.setCall i client (.cacheRead retries s.cache))
  | revoked {i client retries token}
      (awaiting : s.calls[i]? = some (client, .cacheDel retries token)) :
      Moves config s (.execute i)
        { s.setCall i client (.cacheDeleted retries) with
          cache := none
          revocations := (token, s.cache) :: s.revocations }
  | hit {i client retries token}
      (awaiting : s.calls[i]? = some (client, .cacheRead retries (some token))) (text : token ≠ "") :
      Moves config s (.resume i) (s.send i client retries token)
  | missed {i client retries cachedToken}
      (awaiting : s.calls[i]? = some (client, .cacheRead retries cachedToken))
      (empty : ∀ token ∈ cachedToken, token = "") :
      Moves config s (.resume i) (s.authenticate i client retries false)
  | deleted {i client retries} (awaiting : s.calls[i]? = some (client, .cacheDeleted retries)) :
      Moves config s (.resume i) (s.authenticate i client retries true)
  | refreshed {i client retries k owner startedBy token}
      (awaiting : s.calls[i]? = some (client, .authenticating retries true k))
      (settled : s.fetches[k]? = some ⟨owner, startedBy, .settled (.ok token)⟩) :
      Moves config s (.resume i)
        (s.setCall i client (.cacheGet { retries with reauthenticated := some 1 }))
  | authenticated {i client retries k owner startedBy token}
      (awaiting : s.calls[i]? = some (client, .authenticating retries false k))
      (settled : s.fetches[k]? = some ⟨owner, startedBy, .settled (.ok token)⟩) :
      Moves config s (.resume i) (s.send i client retries token)
  | denied {i client retries forceRefresh k owner startedBy error}
      (awaiting : s.calls[i]? = some (client, .authenticating retries forceRefresh k))
      (settled : s.fetches[k]? = some ⟨owner, startedBy, .settled (.error error)⟩) :
      Moves config s (.resume i) (s.setCall i client (.failed config retries error))
  | awoken {i client retries} (awaiting : s.calls[i]? = some (client, .sleeping retries)) :
      Moves config s (.resume i) (s.setCall i client (.cacheGet retries))
  | fetchAnswered {k client startedBy outcome}
      (awaiting : s.fetches[k]? = some ⟨client, startedBy, .posted⟩) :
      Moves config s (.answerFetch k outcome)
        (s.setFetch k ⟨client, startedBy, .answered outcome⟩)
  | stored {k client startedBy token}
      (awaiting : s.fetches[k]? = some ⟨client, startedBy, .cacheSet token⟩) :
      Moves config s (.executeFetch k)
        { s.setFetch k ⟨client, startedBy, .cacheStored token⟩ with cache := some token }
  | cleared {k client startedBy error}
      (awaiting : s.fetches[k]? = some ⟨client, startedBy, .cacheDel error⟩) :
      Moves config s (.executeFetch k)
        { s.setFetch k ⟨client, startedBy, .cacheDeleted error⟩ with cache := none }
  | fetched {k client startedBy token}
      (awaiting : s.fetches[k]? = some ⟨client, startedBy, .cacheStored token⟩) :
      Moves config s (.resumeFetch k) (s.settleFetch k client startedBy (.ok token))
  | fetchFailed {k client startedBy error}
      (awaiting : s.fetches[k]? = some ⟨client, startedBy, .cacheDeleted error⟩) :
      Moves config s (.resumeFetch k) (s.settleFetch k client startedBy (.error error))
  | expired : Moves config s .expire { s with cache := none }

namespace ClientsState.Moves

variable {config : ClientConfig} {s t : ClientsState} {i client : Nat} {call : RequestCall}

theorem of_resumeCall (here : s.calls[i]? = some (client, call))
    (stepped : s.resumeCall config i client call = some t) : Moves config s (.resume i) t := by
  unfold resumeCall at stepped
  cases call with
  | cacheRead retries cachedToken =>
    cases stepped
    cases cachedToken with
    | none => exact .missed here fun token none => by contradiction
    | some token =>
      by_cases text : token = ""
      · subst text
        exact .missed here fun token same => (Option.some.inj same).symm
      · have read : orDefault (some token) "" = token := if_neg text
        rw [read, if_pos text]
        exact .hit here text
  | authenticating retries forceRefresh k =>
    dsimp only at stepped
    split at stepped
    next settled =>
      cases stepped
      cases forceRefresh with
      | true => exact .refreshed here settled
      | false => exact .authenticated here settled
    next settled =>
      cases stepped
      exact .denied here settled
    next => contradiction
  | cacheDeleted retries =>
    cases stepped
    exact .deleted here
  | sleeping retries =>
    cases stepped
    exact .awoken here
  | _ => contradiction

theorem of_next {l : ClientsLabel} (stepped : (clients config).next s l = some t) :
    Moves config s l t := by
  change s.next config l = some t at stepped
  unfold ClientsState.next at stepped
  cases l with
  | answer i outcome =>
    dsimp only at stepped
    split at stepped
    next here => cases stepped; exact .answered here
    next => contradiction
  | execute i =>
    dsimp only at stepped
    split at stepped
    next here => cases stepped; exact .read here
    next here => cases stepped; exact .revoked here
    next => contradiction
  | resume i =>
    obtain ⟨⟨client, call⟩, here, resumed⟩ := Option.bind_eq_some_iff.mp stepped
    exact .of_resumeCall here resumed
  | answerFetch k outcome =>
    dsimp only at stepped
    split at stepped
    next here => cases stepped; exact .fetchAnswered here
    next => contradiction
  | executeFetch k =>
    dsimp only at stepped
    split at stepped
    next here => cases stepped; exact .stored here
    next here => cases stepped; exact .cleared here
    next => contradiction
  | resumeFetch k =>
    dsimp only at stepped
    split at stepped
    next here => cases stepped; exact .fetched here
    next here => cases stepped; exact .fetchFailed here
    next => contradiction
  | expire =>
    cases stepped
    exact .expired

end ClientsState.Moves
end CourierPlatform
