import CourierPlatform.Proofs.AsyncTriples
import CourierPlatform.Spec.ClientSessions

/-! The client keeps to its protocol, through all its nested loops. -/
namespace CourierPlatform
open Js UrbaneBoltClient Async

namespace Session

variable {call : ApiRequest} {script : CourierScript} {config : ClientConfig} {before after : Session}

theorem Step.record {α : Type} {event : ClientEvent} {rest : Unit → ClientM α}
    {post : ClientState → Option (Except Thrown α) → Prop} (step : Step call before event after)
    (h : Triple (Runs call · after) (rest ()) post) :
    Triple (Runs call · before) (UrbaneBoltClient.record event >>= rest) post := by
  refine .modify (h.weaken ?_ fun s settled => id)
  rintro s ⟨earlier, runs, rfl⟩
  exact .step runs step

def Authorized (call : ApiRequest) (held : String → Session) :
    ClientState → Option (Except Thrown String) → Prop :=
  first (fun token s => Runs call s (held token)) (Ended call)

theorem fetch_authorized {held : String → Session} {forced : Bool} (outcome : Option TokenOutcome)
    (asks : Step call before (.tokenRequest outcome) (fetching forced outcome))
    (holds : ∀ data token, tokenOf data = some token →
      Step call (fetching forced (some (.reply data))) (.cacheSet token) (held token)) :
    Triple (Runs call · before) (fetchAndStoreNewAuthToken outcome) (Authorized call held) := by
  unfold fetchAndStoreNewAuthToken
  refine asks.record ?_
  cases outcome with
  | none => exact .never fun s runs => ⟨_, runs, .fetching⟩
  | some outcome =>
    cases outcome with
    | failed responseData =>
      have refused : Step call (fetching forced (some (.failed responseData))) .cacheDel
          (denied responseData) := .refused rfl
      exact refused.record (.throw fun s runs => ⟨_, runs, .denied⟩)
    | reply data =>
      cases found : tokenOf data with
      | none =>
        have refused : Step call (fetching forced (some (.reply data))) .cacheDel (denied none) :=
          .refused (by simp [TokenOutcome.grants, found])
        simp only [found]
        exact refused.record (.throw fun s runs => ⟨_, runs, .denied⟩)
      | some token =>
        simp only [found]
        exact (holds data token found).record (.pure fun s runs => runs)

theorem getAuthToken_authorized :
    Triple (Runs call · ready) (getAuthToken script) (Authorized call holding) := by
  refine .gets fun issued => .weaken ?_ (fun s runs => runs.1) fun s settled => id
  simp only [Bool.false_eq_true, if_false]
  by_cases empty : orDefault (script.cached issued) "" = ""
  · refine (Step.missed empty).record ?_
    simp only [empty, ne_eq, not_true_eq_false, if_false]
    exact fetch_authorized _ .fetched fun data token => .granted
  · cases cached : script.cached issued with
    | none => simp [cached, orDefault] at empty
    | some token =>
      have nonempty : token ≠ "" := by
        rintro rfl
        simp [cached, orDefault] at empty
      refine (Step.cached nonempty).record ?_
      simp only [orDefault, nonempty, if_false, ne_eq, not_false_eq_true, if_true]
      exact .pure fun s runs => runs

theorem getAuthToken_forced : Triple (Runs call · dropped) (getAuthToken script true)
    (Authorized call fun _ => ready) := by
  refine .gets fun issued => .weaken ?_ (fun s runs => runs.1) fun s settled => id
  simp only [if_true]
  exact Step.forced.record (fetch_authorized _ .refetched fun data token => .regranted)

theorem handleAxiosRequestError_ended {error : AxiosError} {again : Option (ClientM Json)}
    (goesOn : ∀ requestAgain ∈ again, Triple (Runs call · ready) requestAgain (Ended call)) :
    Triple (Runs call · (answered (some (.axiosError error))))
      (handleAxiosRequestError script again error) (Ended call) := by
  have rejected : Triple (Runs call · (answered (some (.axiosError error))))
      (if error.isClientError then .throw (createClientError error.data?)
        else .throw (createServerError error error.data?)) (Ended call) := by
    split
    next client => exact .throw fun s runs => ⟨_, runs, .rejected client⟩
    next server => exact .throw fun s runs => ⟨_, runs, .failed (by simpa using server)⟩
  unfold handleAxiosRequestError
  split
  next requestAgain failed =>
    refine (Step.dropped failed).record (.bind getAuthToken_forced fun token => ?_)
    exact goesOn requestAgain rfl
  next => exact rejected

theorem executeCall_ended {again : Option (ClientM Json)}
    (goesOn : ∀ requestAgain ∈ again, Triple (Runs call · ready) requestAgain (Ended call)) :
    Triple (Runs call · ready) (executeCall script call again) (Ended call) := by
  refine .bind getAuthToken_authorized fun token => ?_
  -- what the courier answers, with the session that it leads to
  have sends : Triple (Runs call · (holding token)) (send script call token)
      (first (fun outcome s => Runs call s (answered (some outcome))) (Ended call)) := by
    refine .gets fun issued => .weaken ?_ (fun s runs => runs.1) fun s settled => id
    refine Step.sent.record ?_
    cases script.business issued with
    | none => exact .never fun s runs => ⟨_, runs, .pending⟩
    | some outcome => exact .pure fun s runs => runs
  refine .bind sends fun outcome => ?_
  cases outcome with
  | reply data => exact .pure fun s runs => ⟨_, runs, .replied⟩
  | exception message => exact .throw fun s runs => ⟨_, runs, .threw⟩
  | axiosError error => exact handleAxiosRequestError_ended goesOn

theorem Ends.retried {session : Session} {error : Thrown} (ends : session.Ends (some (.error error)))
    (retried : error.isRetryable = true) :
    ∃ failure : AxiosError, failure.isClientError = false ∧
      session = answered (some (.axiosError failure)) := by
  cases ends with
  | denied => contradiction
  | threw => contradiction
  | rejected client =>
    rw [createClientError_final] at retried
    contradiction
  | failed server => exact ⟨_, server, rfl⟩

theorem withRetries_ended {fn : ClientM Json} (attempt : Triple (Runs call · ready) fn (Ended call)) :
    Triple (Runs call · ready) (withRetries config script fn) (Ended call) := by
  rw [withRetries_eq]
  refine .retry attempt ?_
  rintro s error k delay ⟨session, runs, ends⟩ retried
  obtain ⟨failure, server, rfl⟩ := ends.retried retried
  exact .step runs (.slept server)

end Session

/-- Whatever the cache, the token endpoint and the courier answer, all that the client does for a request
is in order: a business request is the one that was asked for and goes out with the token that has just
been read or granted, a token that the courier refuses is dropped from the cache before another is
fetched, only a transient failure is slept on, and nothing follows what ends the request, which settles
as its last event says. -/
theorem client_sessions_conform (config : ClientConfig) (script : CourierScript) (call : ApiRequest) :
    let ran := request config script call false []
    ∃ session, Session.Runs call ran.1 session ∧ session.Ends ran.2 := by
  have again : Triple (Session.Runs call · .ready)
      (withRetries config script (executeCall script call none)) (Session.Ended call) :=
    Session.withRetries_ended (Session.executeCall_ended (by simp))
  have first : Triple (Session.Runs call · .ready) (request config script call) (Session.Ended call) := by
    refine Session.withRetries_ended (Session.executeCall_ended ?_)
    intro requestAgain same
    cases same
    exact again
  exact first [] .start

end CourierPlatform
