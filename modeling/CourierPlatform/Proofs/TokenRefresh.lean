import CourierPlatform.Library.Lists
import CourierPlatform.Proofs.ClientAttempts
import CourierPlatform.Proofs.ConcurrentClient
import CourierPlatform.Spec.TokenRefresh

/-! One refresh for each expiry, as long as every refusal is dealt with in time. Then there is one fetch,
the token that it stores stays in the cache, and whoever is to send again finds it there. -/
namespace CourierPlatform
open Js Library UrbaneBoltClient

def FetchStage.Sound : FetchStage → Prop
  | posted => True
  | cacheSet token => token ≠ ""
  | cacheStored token => token ≠ ""
  | cacheDel error => error.isRetryable = false
  | cacheDeleted error => error.isRetryable = false
  | settled (.ok token) => token ≠ ""
  | settled (.error error) => error.isRetryable = false

namespace ClientsState

def Stored (s : ClientsState) (token : String) : Prop :=
  ∃ fetch ∈ s.fetches, fetch.stored? = some token

def Follows (old : String) (s : ClientsState) : RequestCall → Prop
  | .cacheGet _ => ∃ token, s.Stored token
  | .sleeping _ => ∃ token, s.Stored token
  | .cacheRead _ cachedToken => ∃ token, s.Stored token ∧ cachedToken = some token
  | .sent _ token => token = old ∨ s.Stored token
  | .authenticating _ forceRefresh _ => forceRefresh = true
  | _ => True

structure Refreshing (old : String) (s : ClientsState) : Prop where
  single : s.fetches.length ≤ 1
  entry : ∀ token, s.cache = some token → token = old ∨ s.Stored token
  lasting : ∀ token, s.Stored token → s.cache = some token
  sound : ∀ fetch ∈ s.fetches, fetch.stage.Sound
  calls : ∀ (i client : Nat) (call : RequestCall), s.calls[i]? = some (client, call) →
    s.Follows old call
  requests : s.requests ≠ [] → s.fetches ≠ []
  revocations : ∀ token removed, (token, some removed) ∈ s.revocations → removed = old

section
variable {old token : String} {s : ClientsState} {i client k startedBy : Nat} {call : RequestCall}
  {retries : RetryState}

theorem stored_nonempty {fetch : TokenFetch} (sound : fetch.stage.Sound)
    (stored : fetch.stored? = some token) : token ≠ "" := by
  obtain ⟨client, startedBy, stage⟩ := fetch
  unfold TokenFetch.stored? at stored
  cases stage with
  | settled result =>
    cases result with
    | ok => exact Option.some.inj stored ▸ sound
    | error => contradiction
  | cacheStored => exact Option.some.inj stored ▸ sound
  | _ => contradiction

theorem unrenewed_iff : s.unrenewed = true ↔ ∀ token, ¬ s.Stored token := by
  unfold unrenewed Stored
  rw [List.all_eq_true]
  constructor
  · intro none token ⟨fetch, here, stored⟩
    simpa [stored] using none fetch here
  · intro unstored fetch here
    cases stored : fetch.stored? with
    | none => rfl
    | some token => exact (unstored token ⟨fetch, here, stored⟩).elim

theorem Follows.mono {s' : ClientsState} (stored : ∀ token, s.Stored token → s'.Stored token)
    (follows : s.Follows old call) : s'.Follows old call := by
  cases call with
  | cacheGet => exact follows.imp stored
  | sleeping => exact follows.imp stored
  | cacheRead => exact follows.imp fun token found => ⟨stored token found.1, found.2⟩
  | sent => exact follows.imp_right (stored _)
  | authenticating => exact follows
  | _ => trivial

namespace Refreshing

theorem start (old : String) (cached : Bool) (calls : List (Nat × Nat)) :
    (sentWith old cached calls).Refreshing old where
  single := Nat.zero_le 1
  entry token here := by
    cases cached with
    | true => exact .inl (Option.some.inj here).symm
    | false => contradiction
  lasting token := by
    intro ⟨fetch, here, _⟩
    contradiction
  sound fetch here := by contradiction
  calls i client call here := by
    simp only [sentWith, List.getElem?_map, Option.map_eq_some_iff] at here
    obtain ⟨_, _, same⟩ := here
    cases same
    exact .inl rfl
  requests sent := (sent rfl).elim
  revocations token removed here := by contradiction

theorem setCall (inv : s.Refreshing old) (call : RequestCall) (follows : s.Follows old call) :
    (s.setCall i client call).Refreshing old where
  single := inv.single
  entry := inv.entry
  lasting := inv.lasting
  sound := inv.sound
  requests := inv.requests
  revocations := inv.revocations
  calls j client' other here := by
    rcases getElem?_set_cases here with ⟨-, same⟩ | ⟨-, same⟩
    · exact inv.calls j client' other same
    · cases same
      exact follows

theorem send (inv : s.Refreshing old) (stored : s.Stored token) :
    (s.send i client retries token).Refreshing old where
  single := inv.single
  entry := inv.entry
  lasting := inv.lasting
  sound := inv.sound
  revocations := inv.revocations
  calls := (inv.setCall (.sent retries token) (.inr stored)).calls
  requests _ none := by
    obtain ⟨fetch, here, _⟩ := stored
    exact List.ne_nil_of_mem here none

theorem revoke (inv : s.Refreshing old) (unrenewed : s.unrenewed = true) :
    { s.setCall i client (.cacheDeleted retries) with
      cache := none
      revocations := (token, s.cache) :: s.revocations }.Refreshing old where
  single := inv.single
  entry token here := by contradiction
  lasting token stored := (unrenewed_iff.mp unrenewed token stored).elim
  sound := inv.sound
  requests := inv.requests
  calls := (inv.setCall (.cacheDeleted retries) trivial).calls
  revocations refused removed here := by
    rcases List.mem_cons.mp here with same | earlier
    · cases entry : s.cache with
      | none => simp [entry] at same
      | some found =>
        rw [entry, Prod.mk.injEq, Option.some.injEq] at same
        rw [same.2]
        exact (inv.entry found entry).resolve_right (unrenewed_iff.mp unrenewed found)
    · exact inv.revocations refused removed earlier

theorem authenticate (inv : s.Refreshing old)
    (early : s.fetches = [] ∨ (s.isAuthenticating client).isSome = true) :
    (s.authenticate i client retries true).Refreshing old := by
  unfold ClientsState.authenticate
  cases flag : s.isAuthenticating client with
  | some fetch => exact inv.setCall _ rfl
  | none =>
    have first : s.fetches = [] := early.resolve_right (by simp [flag])
    have unstored (token : String) : ¬ s.Stored token := by
      intro ⟨fetch, here, _⟩
      rw [first] at here
      contradiction
    have posted : ∀ fetch ∈ s.fetches ++ [⟨client, i, .posted⟩], fetch = ⟨client, i, .posted⟩ := by
      simp [first]
    refine ⟨by simp [first], ?_, ?_, ?_, ?_, fun _ => by simp, inv.revocations⟩
    · intro token here
      exact .inl ((inv.entry token here).resolve_right (unstored token))
    · intro token ⟨fetch, here, stored⟩
      rw [posted fetch here] at stored
      contradiction
    · intro fetch here
      rw [posted fetch here]
      trivial
    · intro j client' other here
      rcases getElem?_set_cases here with ⟨-, same⟩ | ⟨-, same⟩
      · exact (inv.calls j client' other same).mono fun token stored => (unstored token stored).elim
      · cases same
        exact rfl

theorem fetches_eq (inv : s.Refreshing old) {fetch : TokenFetch} (here : s.fetches[k]? = some fetch) :
    k = 0 ∧ s.fetches = [fetch] := by
  have single := inv.single
  cases fetches : s.fetches with
  | nil => simp [fetches] at here
  | cons first rest =>
    have none : rest = [] := by
      rw [fetches, List.length_cons] at single
      exact List.length_eq_zero_iff.mp (by omega)
    subst none
    rw [fetches] at here
    cases k with
    | zero => exact ⟨rfl, congrArg (fun f => [f]) (Option.some.inj here)⟩
    | succ => simp at here

theorem stored_iff (inv : s.Refreshing old) {fetch : TokenFetch}
    (here : s.fetches[k]? = some fetch) : s.Stored token ↔ fetch.stored? = some token := by
  simp [Stored, (inv.fetches_eq here).2]

theorem fetch {stage stage' : FetchStage} {cache : Option String} {flags : Nat → Option Nat}
    (inv : s.Refreshing old) (here : s.fetches[k]? = some ⟨client, startedBy, stage⟩)
    (entry : ∀ token, cache = some token →
      token = old ∨ TokenFetch.stored? ⟨client, startedBy, stage'⟩ = some token)
    (lasting : ∀ token, TokenFetch.stored? ⟨client, startedBy, stage'⟩ = some token → cache = some token)
    (kept : ∀ token, TokenFetch.stored? ⟨client, startedBy, stage⟩ = some token →
      TokenFetch.stored? ⟨client, startedBy, stage'⟩ = some token)
    (sound : stage'.Sound) :
    { s.setFetch k ⟨client, startedBy, stage'⟩ with
      cache, isAuthenticating := flags }.Refreshing old := by
  obtain ⟨zero, before⟩ := inv.fetches_eq here
  have after : (s.setFetch k ⟨client, startedBy, stage'⟩).fetches = [⟨client, startedBy, stage'⟩] := by
    simp [setFetch, before, zero]
  have stored (token : String) :
      { s.setFetch k ⟨client, startedBy, stage'⟩ with cache, isAuthenticating := flags }.Stored token ↔
        TokenFetch.stored? ⟨client, startedBy, stage'⟩ = some token := by
    simp [Stored, after]
  refine ⟨by simp [after], ?_, ?_, ?_, ?_, fun _ => by simp [after], inv.revocations⟩
  · intro token found
    rw [stored]
    exact entry token found
  · intro token found
    exact lasting token ((stored token).mp found)
  · intro other found
    rw [after, List.mem_singleton] at found
    rw [found]
    exact sound
  · intro j client' other found
    apply (inv.calls j client' other found).mono
    intro token earlier
    exact (stored token).mpr (kept token ((inv.stored_iff here).mp earlier))

theorem settle {stage : FetchStage} {result : Except Thrown String} (inv : s.Refreshing old)
    (here : s.fetches[k]? = some ⟨client, startedBy, stage⟩)
    (same : TokenFetch.stored? ⟨client, startedBy, .settled result⟩ =
      TokenFetch.stored? ⟨client, startedBy, stage⟩)
    (sound : FetchStage.Sound (.settled result)) :
    (s.settleFetch k client startedBy result).Refreshing old := by
  have stored (token : String) :
      s.Stored token ↔ TokenFetch.stored? ⟨client, startedBy, .settled result⟩ = some token := by
    rw [same]
    exact inv.stored_iff here
  apply inv.fetch here _ _ _ sound
  · intro token found
    exact (inv.entry token found).imp_right (stored token).mp
  · intro token found
    exact inv.lasting token ((stored token).mpr found)
  · intro token found
    rw [same]
    exact found

end Refreshing

theorem isRetryable_of_goesOn {config : ClientConfig} {error : Thrown} {attempt : Nat}
    (h : (retryOptions config).goesOn error attempt = true) : error.isRetryable = true := by
  unfold RetryOptions.goesOn at h
  simp only [Bool.not_eq_true', Bool.or_eq_false_iff, Bool.not_eq_false'] at h
  exact h.2

theorem failed_cases (config : ClientConfig) (retries : RetryState) (error : Thrown) :
    RequestCall.failed config retries error = .rejected error ∨
      error.isRetryable = true ∧ ∃ later, RequestCall.failed config retries error = .sleeping later := by
  have outer (attempt : Nat) : RequestCall.attemptFailed config attempt error = .rejected error ∨
      error.isRetryable = true ∧
        ∃ later, RequestCall.attemptFailed config attempt error = .sleeping later := by
    unfold RequestCall.attemptFailed
    split
    next again => exact .inr ⟨isRetryable_of_goesOn again, _, rfl⟩
    next => exact .inl rfl
  unfold RequestCall.failed
  cases retries.reauthenticated with
  | none => exact outer _
  | some attempt =>
    dsimp only
    split
    next again => exact .inr ⟨isRetryable_of_goesOn again, _, rfl⟩
    next => exact outer _

theorem follows_failed {config : ClientConfig} {error : Thrown}
    (retried : error.isRetryable = true → ∃ token, s.Stored token) :
    s.Follows old (.failed config retries error) := by
  rcases failed_cases config retries error with ended | ⟨again, later, asleep⟩
  · rw [ended]
    trivial
  · rw [asleep]
    exact retried again

theorem follows_answered {config : ClientConfig} {outcome : HttpOutcome}
    (follows : s.Follows old (.sent retries token))
    (expiry : outcome.afterExpiry old token = true) :
    s.Follows old (.answered config retries token outcome) := by
  cases outcome with
  | reply data => trivial
  | exception message => exact follows_failed Bool.noConfusion
  | axiosError error =>
    unfold RequestCall.answered
    dsimp only
    split
    · trivial
    next first =>
      split
      next client => exact follows_failed fun again => by simp [createClientError_final] at again
      next server =>
        apply follows_failed
        intro _
        refine ⟨token, follows.resolve_left ?_⟩
        rintro rfl
        -- a 401 is a client error
        simp only [HttpOutcome.afterExpiry, if_true, decide_eq_true_eq] at expiry
        simp [AxiosError.isClientError, expiry] at server

theorem sound_answered {outcome : TokenOutcome}
    (text : ∀ data, outcome = .reply data → tokenOf data ≠ some "") :
    (FetchStage.answered outcome).Sound := by
  cases outcome with
  | failed responseData => rfl
  | reply data =>
    unfold FetchStage.answered
    dsimp only
    cases token : tokenOf data with
    | none => exact rfl
    | some stringToken =>
      rintro rfl
      exact text data rfl token

theorem stored?_answered (client startedBy : Nat) (outcome : TokenOutcome) :
    TokenFetch.stored? ⟨client, startedBy, .answered outcome⟩ = none := by
  unfold FetchStage.answered
  cases outcome with
  | failed => rfl
  | reply data => cases token : tokenOf data <;> simp [TokenFetch.stored?, token]

/-- Every step in time keeps the refresh single. -/
theorem Refreshing.step {config : ClientConfig} {l : ClientsLabel} {s' : ClientsState}
    (inv : s.Refreshing old) (expiry : s.afterExpiry old l = true) (early : s.inTime l = true)
    (moves : Moves config s l s') : s'.Refreshing old := by
  cases moves with
  | @answered i client _ _ _ awaiting =>
    apply inv.setCall
    apply follows_answered (inv.calls i client _ awaiting)
    simpa [ClientsState.afterExpiry, awaiting] using expiry
  | @read i client _ awaiting =>
    obtain ⟨token, stored⟩ := inv.calls i client _ awaiting
    exact inv.setCall _ ⟨token, stored, inv.lasting token stored⟩
  | revoked awaiting =>
    apply inv.revoke
    simpa [ClientsState.inTime, awaiting] using early
  | @hit i client _ _ awaiting =>
    obtain ⟨token, stored, same⟩ := inv.calls i client _ awaiting
    cases same
    exact inv.send stored
  | @missed i client _ _ awaiting empty =>
    -- the token that is stored is no empty text
    obtain ⟨token, ⟨fetch, member, found⟩, same⟩ := inv.calls i client _ awaiting
    exact (stored_nonempty (inv.sound fetch member) found (empty token same)).elim
  | deleted awaiting =>
    apply inv.authenticate
    simpa [ClientsState.inTime, awaiting] using early
  | refreshed _ settled => exact inv.setCall _ ⟨_, _, List.mem_of_getElem? settled, rfl⟩
  | @authenticated i client _ _ _ _ _ awaiting =>
    have forced : false = true := inv.calls i client _ awaiting
    contradiction
  | @denied _ _ _ _ _ _ _ error _ settled =>
    have final : error.isRetryable = false := inv.sound _ (List.mem_of_getElem? settled)
    exact inv.setCall _ (follows_failed fun again => by simp [final] at again)
  | @awoken i client _ awaiting => exact inv.setCall _ (inv.calls i client (.sleeping _) awaiting)
  | fetchAnswered awaiting =>
    apply inv.fetch awaiting
    · intro token found
      refine .inl ((inv.entry token found).resolve_right fun earlier => ?_)
      have stored := (inv.stored_iff awaiting).mp earlier
      contradiction
    · intro token found
      rw [stored?_answered] at found
      contradiction
    · intro token found
      contradiction
    · apply sound_answered
      rintro data rfl
      simpa [ClientsState.inTime] using early
  | @stored _ _ _ token awaiting =>
    have sound : FetchStage.Sound (.cacheStored token) := inv.sound _ (List.mem_of_getElem? awaiting)
    apply inv.fetch awaiting (fun _ found => .inr found) (fun _ found => found) _ sound
    intro token found
    contradiction
  | @cleared _ _ _ error awaiting =>
    have sound : FetchStage.Sound (.cacheDeleted error) := inv.sound _ (List.mem_of_getElem? awaiting)
    apply inv.fetch awaiting _ _ _ sound
    all_goals
      intro token found
      contradiction
  | fetched awaiting =>
    apply inv.settle awaiting rfl
    exact inv.sound _ (List.mem_of_getElem? awaiting)
  | fetchFailed awaiting =>
    apply inv.settle awaiting rfl
    exact inv.sound _ (List.mem_of_getElem? awaiting)
  | expired =>
    refine ⟨inv.single, ?_, ?_, inv.sound, inv.calls, inv.requests, inv.revocations⟩
    · intro token found
      contradiction
    · intro token stored
      exact (unrenewed_iff.mp early token stored).elim

theorem Refreshing.oneRefresh (inv : s.Refreshing old) : s.OneRefresh old where
  most _ := inv.single
  least some all := by
    have first : s.resent 0 = true := all 0 (List.length_pos_iff.mpr some)
    have sent : s.requests ≠ [] := by
      rintro none
      simp [resent, none] at first
    exact List.length_pos_iff.mpr (inv.requests sent)
  kept token here := inv.revocations old token here

/-- A refusal that is dealt with when another token is in the cache deletes that token. -/
theorem late_revocation {config : ClientConfig} {s' : ClientsState}
    (awaiting : s.calls[i]? = some (client, .cacheDel retries old)) (renewed : s.cache = some token)
    (other : token ≠ old) (moves : Moves config s (.execute i) s') : ¬ s'.OneRefresh old := by
  intro one
  cases moves with
  | read here => simp [awaiting] at here
  | revoked here =>
    obtain ⟨-, same⟩ := Prod.mk.inj (Option.some.inj (awaiting.symm.trans here))
    cases same
    exact other (one.kept token (by simp [renewed]))

/-- A refusal whose client has no fetch under way any more is the second `POST`. -/
theorem late_refresh {config : ClientConfig} {s' : ClientsState}
    (awaiting : s.calls[i]? = some (client, .cacheDeleted retries)) (waiting : s.resent i = false)
    (earlier : s.fetches ≠ []) (settled : s.isAuthenticating client = none)
    (moves : Moves config s (.resume i) s') : ¬ s'.OneRefresh old := by
  intro one
  have bound : i < s.calls.length := (List.getElem?_eq_some_iff.mp awaiting).1
  have before : 0 < s.fetches.length := List.length_pos_iff.mpr earlier
  cases moves with
  | @deleted _ client _ here =>
    obtain ⟨same, -⟩ := Prod.mk.inj (Option.some.inj (awaiting.symm.trans here))
    subst same
    unfold ClientsState.authenticate at one
    rw [settled] at one
    have again := one.most ⟨i, by simpa [setCall] using bound, waiting⟩
    simp only [List.length_append, List.length_singleton] at again
    omega
  | hit here | missed here | refreshed here | authenticated here | denied here | awoken here =>
    simp [awaiting] at here

end

/-- After the expiry of the token of any number of calls, in one process or in several: if every refusal
is dealt with in time there is one `POST` until all of them have been sent once more, and no renewed
token is deleted for a refusal of the expired one. -/
theorem one_refresh_of_inTime (config : ClientConfig) (old : String) (cached : Bool)
    (calls : List (Nat × Nat)) {s : ClientsState}
    (reach : (clients config).Reaches (fun s l => s.afterExpiry old l = true ∧ s.inTime l = true)
      (sentWith old cached calls) s) : s.OneRefresh old := by
  apply Refreshing.oneRefresh
  apply reach.invariant (Refreshing old) (.start old cached calls)
  intro a l b inv permitted stepped
  exact inv.step permitted.1 permitted.2 (.of_next stepped)

def unauthorized : HttpOutcome :=
  .axiosError { message := "Request failed with status code 401", response := some (401, .null) }

def granted (token : String) : TokenOutcome := .reply (.object [("access_token", .string token)])

def refusal (i : Nat) : List ClientsLabel := [.answer i unauthorized, .execute i, .resume i]

def renewal (k : Nat) (token : String) : List ClientsLabel :=
  [.answerFetch k (granted token), .executeFetch k, .resumeFetch k]

def resending (i : Nat) : List ClientsLabel := [.resume i, .execute i, .resume i]

theorem one_refresh_both_refused : ∃ s : ClientsState,
    (clients ⟨3, 1000⟩).Reaches (fun s l => s.afterExpiry "old" l = true ∧ s.inTime l = true)
      (sentWith "old" true [(0, 1), (0, 1)]) s ∧
    (s.resent 0 && s.resent 1) = true ∧ s.OneRefresh "old" := by
  obtain ⟨s, reach, both⟩ := Machine.Reaches.of_run_any (clients ⟨3, 1000⟩)
    (fun s l => s.afterExpiry "old" l = true ∧ s.inTime l = true)
    (sentWith "old" true [(0, 1), (0, 1)])
    (refusal 0 ++ refusal 1 ++ renewal 0 "new" ++ resending 0 ++ resending 1)
    (fun s => s.resent 0 && s.resent 1) (by decide)
  exact ⟨s, reach, both, one_refresh_of_inTime _ "old" true _ reach⟩

/-- The refusal of the second call arrives when the first call's refresh is over, and deletes the new
token. -/
theorem late_refusal_refreshes_again :
    ¬ ∀ config old cached calls s,
      (clients config).Reaches (fun s l => s.afterExpiry old l = true) (sentWith old cached calls) s →
      s.OneRefresh old := by
  intro claim
  obtain ⟨s, reach, late⟩ := Machine.Reaches.of_run_any (clients ⟨3, 1000⟩)
    (fun s l => s.afterExpiry "old" l = true) (sentWith "old" true [(0, 1), (0, 1)])
    (refusal 0 ++ renewal 0 "new" ++ refusal 1)
    (fun s => s.revocations.head? = some ("old", some "new")) (by decide)
  have deleted := List.mem_of_head? (of_decide_eq_true late)
  have same := (claim _ _ _ _ s reach).kept "new" deleted
  exact absurd same (by decide)

end ClientsState
end CourierPlatform
