import CourierPlatform.Proofs.ClientAttempts
import CourierPlatform.Spec.Schedules
import Mathlib.Data.Nat.Count

/-! What one `createShipment` may book when replies are lost. The client repeats a request whose reply
it has not got, whether or not the courier has processed it. -/
namespace CourierPlatform
open Js UrbaneBoltClient

namespace CourierScript

def replied (script : CourierScript) (k : Nat) : Bool :=
  match script.business k with
  | some (.reply _) => true
  | _ => false

/-- The courier books a shipment for a request that it processes; one that it answers with 401 or 403
it does not process. -/
def books (script : CourierScript) (processed : Nat → Bool) (k : Nat) : Bool :=
  processed k && !script.authFailure k

def bookings (script : CourierScript) (processed : Nat → Bool) (s : ClientState) : Nat :=
  s.issued.count fun k => script.books processed k

def lostReplies (script : CourierScript) (processed : Nat → Bool) (s : ClientState) : Nat :=
  s.issued.count fun k => script.books processed k && !script.replied k

theorem replied_of_transient {script : CourierScript} {k : Nat} (failed : script.transient k = true) :
    script.replied k = false := by
  unfold transient at failed
  unfold replied
  split
  next data outcome => simp [outcome, HttpOutcome.isTransient] at failed
  next => rfl

theorem replied_of_authFailure {script : CourierScript} {k : Nat}
    (failed : script.authFailure k = true) : script.replied k = false := by
  unfold authFailure at failed
  unfold replied
  split
  next data outcome => simp [outcome, HttpOutcome.isAuthFailure] at failed
  next => rfl

theorem books_of_authFailure {script : CourierScript} {processed : Nat → Bool} {k : Nat}
    (failed : script.authFailure k = true) : script.books processed k = false := by
  simp [books, failed]

end CourierScript

theorem count_le_of_issued (p : Nat → Prop) [DecidablePred p] {k l n : Nat} (few : l ≤ k + n) :
    l.count p ≤ k.count p + n := by
  calc l.count p ≤ (k + n).count p := Nat.count_monotone p few
    _ = k.count p + n.count fun i => p (k + i) := Nat.count_add p k n
    _ ≤ k.count p + n := Nat.add_le_add_left (Nat.count_le _) _

theorem count_le_of_reply (p q : Nat → Bool) (n : Nat) :
    n.count (fun k => p k) ≤ n.count (fun k => p k && !q k) + n.count fun k => q k := by
  induction n with
  | zero => exact Nat.zero_le _
  | succ n ih =>
    rw [Nat.count_succ, Nat.count_succ, Nat.count_succ]
    cases p n <;> cases q n <;>
      simp only [Bool.not_true, Bool.not_false, Bool.and_true, Bool.and_false, Bool.false_eq_true,
        if_true, if_false] <;> omega

namespace UrbaneBoltClient

variable {script : CourierScript} {call : ApiRequest} {config : ClientConfig} {s : ClientState}

/-- One attempt, with the loop it may contain, books at most as many shipments as that loop has attempts. -/
theorem Attempt.bookings_le {requestAgain : ClientM Json} {m : Nat}
    {ran : ClientState × Option (Except Thrown Json)}
    (attempt : Attempt script (some requestAgain) s ran) (processed : Nat → Bool) (several : 0 < m)
    (streak : ∀ s, Streak script m s (requestAgain s).1 (requestAgain s).2) :
    script.bookings processed ran.1 ≤ script.bookings processed s + m := by
  unfold CourierScript.bookings
  cases attempt with
  | unauthorized denied issued => exact count_le_of_issued _ (by dsimp only; omega)
  | answered authorized calm noAgain issued => exact count_le_of_issued _ (by dsimp only; omega)
  | failed retried issued => exact count_le_of_issued _ (by dsimp only; omega)
  | notRefreshed authorized calm first failed denied issued =>
    exact count_le_of_issued _ (by dsimp only; omega)
  | @refreshed after _ first authorized failed granted issued =>
    cases first
    have refused : after.issued.count (fun k => script.books processed k) =
        s.issued.count fun k => script.books processed k := by
      rw [issued, Nat.count_succ_eq_count_iff, CourierScript.books_of_authFailure failed]
      exact Bool.false_ne_true
    rw [← refused]
    exact count_le_of_issued _ (streak after).bounded

theorem request_bookings_le (config : ClientConfig) (script : CourierScript) (processed : Nat → Bool)
    (call : ApiRequest) :
    script.bookings processed (request config script call false []).1 ≤
      (retryOptions config).attempts * (retryOptions config).attempts := by
  have streak := reauthenticated_streak config script call
  have several := (retryOptions config).attempts_pos
  have one (s : ClientState) :=
    (executeCall_attempt script call (some _) s).bookings_le processed several streak
  have kept : script.bookings processed (request config script call false []).1 ≤
      script.bookings processed [] +
        (retryOptions config).attempts * (retryOptions config).attempts := by
    apply withRetries_induct fun n s settled => script.bookings processed settled.1 ≤
      script.bookings processed s + n * (retryOptions config).attempts
    · intro left s final
      have more := one s
      rw [Nat.add_mul, Nat.one_mul]
      omega
    · intro s
      rw [Nat.one_mul]
      exact one s
    · intro left s s' error s'' settled thrown retried issued refreshes rest
      have more : script.bookings processed s' ≤
          script.bookings processed s + (retryOptions config).attempts := by
        simpa only [thrown] using one s
      have same : script.bookings processed s'' = script.bookings processed s' := by
        unfold CourierScript.bookings
        rw [issued]
      rw [Nat.add_mul] at rest ⊢
      omega
  simpa [CourierScript.bookings, ClientState.issued] using kept

def RepliedOnce (script : CourierScript) (s : ClientState)
    (ran : ClientState × Option (Except Thrown Json)) : Prop :=
  ran.1.issued.count (fun k => script.replied k) ≤
    s.issued.count (fun k => script.replied k) + if retryable ran.2 then 0 else 1

theorem count_replied {k l : Nat} (issued : l = k + 1) (unanswered : script.replied k = false) :
    l.count (fun k => script.replied k) = k.count fun k => script.replied k := by
  rw [issued, Nat.count_succ_eq_count_iff, unanswered]
  exact Bool.false_ne_true

theorem executeCall_repliedOnce {again : Option (ClientM Json)}
    (once : ∀ requestAgain, again = some requestAgain → ∀ s, RepliedOnce script s (requestAgain s))
    (s : ClientState) : RepliedOnce script s (executeCall script call again s) := by
  have attempt := executeCall_attempt script call again s
  generalize executeCall script call again s = ran at attempt ⊢
  unfold RepliedOnce
  cases attempt with
  | @unauthorized after settled denied issued refreshes final =>
    rw [if_neg (Bool.not_eq_true _ ▸ final)]
    exact count_le_of_issued _ (by dsimp only; omega)
  | @answered after settled authorized calm noAgain issued refreshes final =>
    rw [if_neg (Bool.not_eq_true _ ▸ final)]
    exact count_le_of_issued _ (by dsimp only; omega)
  | @notRefreshed after settled authorized calm first failed denied issued refreshes final =>
    rw [if_neg (Bool.not_eq_true _ ▸ final)]
    exact count_le_of_issued _ (by dsimp only; omega)
  | @failed after error retried issued refreshes thrown =>
    have unanswered := CourierScript.replied_of_transient (CourierScript.retried_iff.mp retried).2
    have same := count_replied issued unanswered
    dsimp only
    omega
  | @refreshed after requestAgain first authorized failed granted issued refreshes =>
    rw [← count_replied issued (CourierScript.replied_of_authFailure failed)]
    exact once requestAgain first after

theorem withRetries_repliedOnce {fn : ClientM Json} (once : ∀ s, RepliedOnce script s (fn s))
    (s : ClientState) : RepliedOnce script s (withRetries config script fn s) := by
  apply withRetries_induct fun _ => RepliedOnce script
  · intro left s final
    exact once s
  · intro s
    exact once s
  · intro left s s' error s'' settled thrown retried issued refreshes rest
    have none : s'.issued.count (fun k => script.replied k) ≤
        s.issued.count fun k => script.replied k := by
      simpa [RepliedOnce, thrown, retried] using once s
    unfold RepliedOnce at rest ⊢
    rw [issued] at rest
    omega

theorem request_repliedOnce (config : ClientConfig) (script : CourierScript) (call : ApiRequest) :
    (request config script call false []).1.issued.count (fun k => script.replied k) ≤ 1 := by
  have second (s : ClientState) : RepliedOnce script s
      (withRetries config script (executeCall script call none) s) :=
    withRetries_repliedOnce (executeCall_repliedOnce (by simp)) s
  have both : RepliedOnce script [] (request config script call false []) := by
    apply withRetries_repliedOnce
    apply executeCall_repliedOnce
    intro requestAgain first
    cases first
    exact second
  have empty : ClientState.issued [] = 0 := rfl
  unfold RepliedOnce at both
  rw [empty, Nat.count_zero] at both
  split at both <;> omega

theorem bookings_le_lostReplies (script : CourierScript) (processed : Nat → Bool) (s : ClientState)
    (once : s.issued.count (fun k => script.replied k) ≤ 1) :
    script.bookings processed s ≤ script.lostReplies processed s + 1 := by
  have all := count_le_of_reply (fun k => script.books processed k) (fun k => script.replied k) s.issued
  unfold CourierScript.bookings CourierScript.lostReplies
  omega

end UrbaneBoltClient

open UrbaneBoltClient

/-- However replies are lost, one `createShipment` books at most as many shipments as the attempts of the
two nested loops, and at most one more than the replies that were lost. -/
theorem createShipment_bookings (config : ClientConfig) (script : CourierScript)
    (processed : Nat → Bool) (payload : Json) (now : Int) (random : Fin 9000)
    (order : NormalizedCreateOrderRequest) :
    script.bookings processed
        (UrbaneBoltAdapter.createShipment config script payload now random order []).1 ≤
          (max 1 config.retryAttempts).toNat ^ 2 ∧
      script.bookings processed
        (UrbaneBoltAdapter.createShipment config script payload now random order []).1 ≤
        script.lostReplies processed
          (UrbaneBoltAdapter.createShipment config script payload now random order []).1 + 1 := by
  constructor
  · rw [Nat.pow_two]
    exact request_bookings_le config script processed _
  · exact bookings_le_lostReplies script processed _ (request_repliedOnce config script _)

def timeoutAfterBooking : CourierScript :=
  steadyTokens fun k => some
    (if k = 0 then .axiosError { code := some "ECONNABORTED", message := "timeout of 10000ms exceeded" }
    else .reply (.array []))

theorem booked_twice_by_lost_reply :
    ¬ ∀ (config : ClientConfig) (script : CourierScript) (processed : Nat → Bool) (payload : Json)
      (now : Int) (random : Fin 9000) (order : NormalizedCreateOrderRequest),
      script.bookings processed
        (UrbaneBoltAdapter.createShipment config script payload now random order []).1 ≤ 1 := by
  intro claim
  have twice : timeoutAfterBooking.bookings (fun _ => true)
      (UrbaneBoltAdapter.createShipment ⟨2, 1000⟩ timeoutAfterBooking (.array []) 0 0
        (parcel "A-1" "urbanebolt") []).1 = 2 := by
    decide +kernel
  have once := claim ⟨2, 1000⟩ timeoutAfterBooking (fun _ => true) (.array []) 0 0
    (parcel "A-1" "urbanebolt")
  rw [twice] at once
  contradiction

end CourierPlatform
