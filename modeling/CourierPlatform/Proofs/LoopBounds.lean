import CourierPlatform.Model.Config
import CourierPlatform.Proofs.ClientAttempts
import CourierPlatform.Proofs.Concurrency

/-! The loops under the bounds that the environment gives them. An integer bound is as good as any
other; under `NaN` the retries never end and the pool has no runner. -/
namespace CourierPlatform
open Js Library UrbaneBoltClient

def JsText.beginsWithInteger (js : JsText) (text : String) : Bool :=
  match text.toList.dropWhile js.isSpace with
  | [] => false
  | c :: rest => c.isDigit || (c = '-' || c = '+') && rest.head?.any Char.isDigit

theorem takeWhile_isDigit_ne_nil (text : List Char) :
    text.takeWhile Char.isDigit ≠ [] ↔ text.head?.any Char.isDigit = true := by
  cases text with
  | nil => simp
  | cons c rest => by_cases digit : Char.isDigit c = true <;> simp [digit]

theorem JsText.signedDigits_ne_nil (js : JsText) (text : String) :
    (js.signedDigits text).2 ≠ [] ↔ js.beginsWithInteger text = true := by
  unfold signedDigits beginsWithInteger
  cases text.toList.dropWhile js.isSpace with
  | nil => simp
  | cons c rest =>
    by_cases minus : c = '-'
    · subst minus
      have sign : Char.isDigit '-' = false := by decide
      exact (takeWhile_isDigit_ne_nil rest).trans (by simp [sign])
    · by_cases plus : c = '+'
      · subst plus
        have sign : Char.isDigit '+' = false := by decide
        exact (takeWhile_isDigit_ne_nil rest).trans (by simp [sign])
      · split
        next => simp_all
        next => simp_all
        next => exact (takeWhile_isDigit_ne_nil (c :: rest)).trans (by simp [minus, plus])

theorem JsText.parseInt_isSome (js : JsText) (text : String) :
    (js.parseInt text).isSome = js.beginsWithInteger text := by
  have read : (js.parseInt text).isSome = true ↔ (js.signedDigits text).2 ≠ [] := by
    unfold parseInt
    dsimp only
    split
    next none => simp [none]
    next some => simpa using some
  rw [Bool.eq_iff_iff, read, signedDigits_ne_nil]

def Async.Settles {σ ε α : Type} (call : Async σ ε α) : Prop := ∀ s, (call s).2.isSome = true

namespace Async.Settles

variable {σ ε α β : Type}

theorem pure (a : α) : (Pure.pure a : Async σ ε α).Settles := fun _ => rfl

theorem throw (error : ε) : (Async.throw error : Async σ ε α).Settles := fun _ => rfl

theorem bind {first : Async σ ε α} {rest : α → Async σ ε β} (here : first.Settles)
    (after : ∀ a, (rest a).Settles) : (first >>= rest).Settles := by
  intro s
  rw [Async.bind_apply]
  have settled := here s
  generalize first s = result at settled
  obtain ⟨s', _ | error | a⟩ := result
  · contradiction
  · rfl
  · exact after a s'

theorem gets_bind {read : σ → α} {rest : α → Async σ ε β} (after : ∀ a, (rest a).Settles) :
    (Async.gets read >>= rest).Settles := fun s => after (read s) s

/-- The loop comes to an end if its fuel lasts up to the attempt `maxAttempts`. The induction is on the
attempts that may still be made. -/
theorem retryLoop {maxAttempts : Int} {options : RetryOptions ε} {random : σ → Rat}
    {sleep : ε → Nat → Rat → σ → σ} {fn : Async σ ε α} (settles : fn.Settles) (left attempt : Nat)
    (delay : Rat) (enough : maxAttempts ≤ attempt + left) :
    (CourierPlatform.retryLoop maxAttempts options random sleep fn (left + 1) attempt delay).Settles := by
  induction left generalizing attempt delay with
  | zero =>
    intro s
    have reached : maxAttempts ≤ attempt := by simpa using enough
    have settled := settles s
    rw [CourierPlatform.retryLoop]
    dsimp only
    generalize fn s = result at settled
    obtain ⟨s', _ | error | a⟩ := result
    · contradiction
    · simp [reached]
    · rfl
  | succ left ih =>
    intro s
    have settled := settles s
    rw [CourierPlatform.retryLoop]
    dsimp only
    generalize fn s = result at settled
    obtain ⟨s', _ | error | a⟩ := result
    · contradiction
    · dsimp only
      split
      next => rfl
      next => exact ih (attempt + 1) _ (by push_cast at enough ⊢; omega) _
    · rfl

end Async.Settles

structure CourierScript.Answers (script : CourierScript) : Prop where
  token : ∀ k, orDefault (script.cached k) "" ≠ "" ∨ (script.fetched k).isSome = true
  refreshed : ∀ k, (script.refreshed k).isSome = true
  business : ∀ k, (script.business k).isSome = true

namespace UrbaneBoltClient

variable {script : CourierScript}

theorem settles_record_bind {α : Type} {event : ClientEvent} {rest : Unit → ClientM α}
    (after : (rest ()).Settles) : (record event >>= rest).Settles := fun s => after (event :: s)

theorem fetchAndStoreNewAuthToken_settles {outcome : Option TokenOutcome}
    (answered : outcome.isSome = true) : (fetchAndStoreNewAuthToken outcome).Settles := by
  apply settles_record_bind
  cases outcome with
  | none => contradiction
  | some outcome =>
    cases outcome with
    | failed responseData => exact settles_record_bind (.throw _)
    | reply data =>
      cases found : tokenOf data with
      | none =>
        simp only [found]
        exact settles_record_bind (.throw _)
      | some token =>
        simp only [found]
        exact settles_record_bind (.pure _)

theorem getAuthToken_settles (answers : script.Answers) (forceRefresh : Bool) :
    (getAuthToken script forceRefresh).Settles := by
  apply Async.Settles.gets_bind
  intro issued
  cases forceRefresh with
  | true => exact settles_record_bind (fetchAndStoreNewAuthToken_settles (answers.refreshed issued))
  | false =>
    apply settles_record_bind
    dsimp only
    split
    next => exact .pure _
    next missing =>
      exact fetchAndStoreNewAuthToken_settles ((answers.token issued).resolve_left missing)

theorem send_settles (answers : script.Answers) (call : ApiRequest) (token : String) :
    (send script call token).Settles := by
  intro s
  rw [send_apply, Option.isSome_map]
  exact answers.business s.issued

theorem handleAxiosRequestError_settles (answers : script.Answers) {again : Option (ClientM Json)}
    (settles : ∀ requestAgain ∈ again, requestAgain.Settles) (error : AxiosError) :
    (handleAxiosRequestError script again error).Settles := by
  unfold handleAxiosRequestError
  split
  next requestAgain _ =>
    apply settles_record_bind
    apply (getAuthToken_settles answers true).bind
    intro token
    exact settles requestAgain rfl
  next => split <;> exact .throw _

theorem executeCall_settles (answers : script.Answers) (call : ApiRequest)
    {again : Option (ClientM Json)} (settles : ∀ requestAgain ∈ again, requestAgain.Settles) :
    (executeCall script call again).Settles := by
  apply (getAuthToken_settles answers false).bind
  intro token
  apply (send_settles answers call token).bind
  intro outcome
  cases outcome with
  | reply data => exact .pure _
  | axiosError error => exact handleAxiosRequestError_settles answers settles error
  | exception message => exact .throw _

theorem requestIn_settles (answers : script.Answers) {withRetries : ClientM Json → ClientM Json}
    (loop : ∀ fn, Async.Settles fn → Async.Settles (withRetries fn)) (call : ApiRequest) :
    (requestIn withRetries script call false).Settles := by
  apply loop
  apply executeCall_settles answers call
  intro requestAgain mem
  cases mem
  apply loop
  apply executeCall_settles answers call
  intro requestAgain none
  contradiction

theorem executeCall_fails {s : ClientState} (retried : script.retried s.issued = true)
    (call : ApiRequest) (again : Option (ClientM Json)) :
    ∃ s' error, executeCall script call again s = (s', some (.error error)) ∧
      error.isRetryable = true := by
  obtain ⟨authorized, transient⟩ := CourierScript.retried_iff.mp retried
  have attempt := executeCall_attempt script call again s
  generalize executeCall script call again s = result at attempt
  cases attempt with
  | unauthorized denied =>
    rw [authorized] at denied
    contradiction
  | answered _ calm =>
    rw [transient] at calm
    contradiction
  | failed _ _ _ retryable => exact ⟨_, _, rfl, retryable⟩
  | notRefreshed _ calm =>
    rw [transient] at calm
    contradiction
  | refreshed _ _ authFailure =>
    rw [CourierScript.transient_of_authFailure authFailure] at transient
    contradiction

end UrbaneBoltClient

section
variable {σ ε α : Type} {options : RetryOptions ε} {random : σ → Rat}
  {sleep : ε → Nat → Rat → σ → σ} {fn : Async σ ε α}

/-- No attempt is the last one under `NaN`. -/
theorem retryLoop_pending (fails : ∀ s attempt, ∃ s' error, fn s = (s', some (.error error)) ∧
      options.shouldRetry error attempt = true)
    (fuel attempt : Nat) (delay : Rat) (s : σ) :
    (retryLoop none options random sleep fn fuel attempt delay s).2 = none := by
  induction fuel generalizing attempt delay s with
  | zero => rfl
  | succ fuel ih =>
    obtain ⟨s', error, thrown, retried⟩ := fails s attempt
    simp only [retryLoop, thrown, attemptsExhausted_none, retried, Bool.not_true, Bool.or_self,
      Bool.false_eq_true, if_false]
    exact ih _ _ _

end

theorem requestIn_pending {script : CourierScript} (retried : ∀ k, script.retried k = true)
    (config : ClientConfig) (call : ApiRequest) (fuel : Nat) (s : ClientState) :
    (requestIn (retries none config script fuel) script call false s).2 = none := by
  apply retryLoop_pending
  intro s attempt
  exact executeCall_fails (retried s.issued) call _

theorem runWithConcurrency_nan {T R ε : Type} {items : List T} (filled : items.length ≠ 0) :
    (runWithConcurrency items none : WorkerPool T R ε) =
      ⟨0, List.replicate items.length none, [], [], some (.ok (List.replicate items.length none))⟩ := by
  rw [runWithConcurrency, if_neg filled]
  rfl

/-- A token is always to be had, and every business request fails in a way after which the client
sends it again. -/
def CourierScript.KeepsFailing (script : CourierScript) : Prop :=
  ∀ k, script.authorizes k = true ∧ script.refreshes k = true ∧
    (script.transient k = true ∨ script.authFailure k = true)

def RequestsEnd (retryAttempts : Option Int) : Prop :=
  ∀ config script call s, script.KeepsFailing → ∃ fuel,
    (requestIn (retries retryAttempts config script fuel) script call false s).2.isSome = true

/-- When the calls of `worker` that were made have been fulfilled, there has been one for each item. -/
def EveryItemIsCalled (limit : Option Int) : Prop :=
  ∀ (T R ε : Type) (items : List T) (s : WorkerPool T R ε),
    (workerPool T R ε items).Reaches (fun _ l => l.fulfils = true) (runWithConcurrency items limit) s →
      s.pending = 0 → s.calls = items.zipIdx

theorem CourierScript.KeepsFailing.answers {script : CourierScript} (fails : script.KeepsFailing) :
    script.Answers where
  token := by
    intro k
    have authorized := (fails k).1
    unfold CourierScript.authorizes at authorized
    rcases Bool.or_eq_true_iff.mp authorized with cached | granted
    · exact .inl (by simpa using cached)
    · cases fetched : script.fetched k with
      | none => simp [fetched, TokenOutcome.grants] at granted
      | some outcome => exact .inr rfl
  refreshed := by
    intro k
    have granted := (fails k).2.1
    unfold CourierScript.refreshes at granted
    cases refreshed : script.refreshed k with
    | none => simp [refreshed, TokenOutcome.grants] at granted
    | some outcome => rfl
  business := by
    intro k
    have failed := (fails k).2.2
    cases outcome : script.business k with
    | none => simp [CourierScript.transient, CourierScript.authFailure, outcome] at failed
    | some outcome => rfl

theorem requestsEnd (n : Int) : RequestsEnd (some n) := by
  intro config script call s fails
  refine ⟨n.toNat + 1, requestIn_settles fails.answers (fun fn settles => ?_) call s⟩
  exact settles.retryLoop n.toNat 1 _ (by omega)

def unavailable : CourierScript :=
  steadyTokens fun _ => some (.axiosError ⟨none, "Service Unavailable", some (503, .null)⟩)

theorem unavailable_retried (k : Nat) : unavailable.retried k = true := rfl

theorem not_requestsEnd_nan : ¬ RequestsEnd none := by
  intro ends
  obtain ⟨fuel, settled⟩ := ends ⟨3, 1000⟩ unavailable ⟨.post, "/services/manifest/", none, none⟩ []
    fun k => ⟨rfl, rfl, .inl rfl⟩
  rw [requestIn_pending unavailable_retried] at settled
  contradiction

theorem everyItemIsCalled (n : Int) : EveryItemIsCalled (some n) := by
  intro T R ε items s reach idle
  by_cases empty : items.length = 0
  · cases List.eq_nil_of_length_eq_zero empty
    have still : s = runWithConcurrency [] n := by
      refine reach.invariant (· = runWithConcurrency [] n) rfl ?_
      rintro a l b rfl - moved
      cases l <;> contradiction
    rw [still]
    rfl
  · obtain ⟨fulfilled, begun⟩ : ∃ fulfilled, WorkerPool.Begun items n s fulfilled := by
      refine reach.invariant (fun s => ∃ fulfilled, WorkerPool.Begun items n s fulfilled)
        ⟨[], .start n empty⟩ ?_
      rintro a l b ⟨fulfilled, begun⟩ healthy moved
      exact ⟨_, begun.next healthy moved⟩
    obtain ⟨results, resolved⟩ := begun.correct.resolves idle
    exact (begun.correct.placed results resolved).1

theorem not_everyItemIsCalled_nan : ¬ EveryItemIsCalled none := by
  intro called
  have started : (runWithConcurrency [()] none : WorkerPool Unit Unit Unit) =
      ⟨0, [none], [], [], some (.ok [none])⟩ := runWithConcurrency_nan (by decide)
  have calls := called Unit Unit Unit [()] _ .refl (by rw [started]; rfl)
  rw [started] at calls
  contradiction

/-- Both bounds do their work exactly where the texts of the environment begin with an integer. -/
theorem loopBounds_iff (js : JsText) (env : String → Option String) :
    RequestsEnd (CourierConfig.retryAttempts js env) ∧
        EveryItemIsCalled (CourierConfig.bulkConcurrencyLimit js env) ↔
      js.beginsWithInteger (orDefault (env "COURIER_RETRY_ATTEMPTS") "3") = true ∧
        js.beginsWithInteger (orDefault (env "BULK_CONCURRENCY_LIMIT") "10") = true := by
  have requests : RequestsEnd (CourierConfig.retryAttempts js env) ↔
      js.beginsWithInteger (orDefault (env "COURIER_RETRY_ATTEMPTS") "3") = true := by
    rw [← JsText.parseInt_isSome, ← CourierConfig.retryAttempts]
    cases CourierConfig.retryAttempts js env with
    | none => exact iff_of_false not_requestsEnd_nan (by simp)
    | some n => exact iff_of_true (requestsEnd n) rfl
  have items : EveryItemIsCalled (CourierConfig.bulkConcurrencyLimit js env) ↔
      js.beginsWithInteger (orDefault (env "BULK_CONCURRENCY_LIMIT") "10") = true := by
    rw [← JsText.parseInt_isSome, ← CourierConfig.bulkConcurrencyLimit]
    cases CourierConfig.bulkConcurrencyLimit js env with
    | none => exact iff_of_false not_everyItemIsCalled_nan (by simp)
    | some n => exact iff_of_true (everyItemIsCalled n) rfl
  rw [requests, items]

def wordyEnv (name : String) : Option String :=
  if name = "COURIER_RETRY_ATTEMPTS" then some "three"
  else if name = "BULK_CONCURRENCY_LIMIT" then some "ten"
  else none

theorem loops_unbounded_by_words :
    ¬ RequestsEnd (CourierConfig.retryAttempts .ascii wordyEnv) ∧
      ¬ EveryItemIsCalled (CourierConfig.bulkConcurrencyLimit .ascii wordyEnv) :=
  ⟨not_requestsEnd_nan, not_everyItemIsCalled_nan⟩

end CourierPlatform
