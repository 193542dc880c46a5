import CourierPlatform.Proofs.ClientAttempts

/-! How often one call of the client goes to the courier. The request that authenticates again has a
retry loop of its own, inside an attempt of the first; what the two loops send together is decided
by the first answers of the script. -/
namespace CourierPlatform
open Js UrbaneBoltClient

namespace CourierScript

/-- Of the first `m + 1` requests, which are all sent, exactly one is answered with 401 or 403, no later than
as the `m`-th, and after a new token has been fetched the others fail transiently; a token is there for
one request more. -/
def repeats (script : CourierScript) (m : Nat) : Prop :=
  2 ≤ m ∧ (∀ j ≤ m + 1, script.authorizes j = true) ∧
    ∃ a < m, script.authFailure a = true ∧ script.refreshes (a + 1) = true ∧
      ∀ j ≤ m, j ≠ a → script.transient j = true

instance (script : CourierScript) (m : Nat) : Decidable (script.repeats m) :=
  inferInstanceAs (Decidable (_ ∧ (∀ j ≤ _, _) ∧ ∃ a < _, _ ∧ _ ∧ ∀ j ≤ _, _))

theorem eq_of_calm {script : CourierScript} {k a m : Nat} (calm : script.transient k = false)
    (most : k ≤ m) (others : ∀ j ≤ m, j ≠ a → script.transient j = true) : k = a := by
  by_contra different
  rw [others k most different] at calm
  contradiction

theorem repeats_iff {script : CourierScript} {k m : Nat} (inside : k < m)
    (earlier : ∀ j < k, script.retried j = true) (authorized : script.authorizes k = true)
    (failed : script.authFailure k = true) (granted : script.refreshes (k + 1) = true) :
    script.repeats m ↔ 2 ≤ m ∧ (∀ j, k < j → j ≤ m → script.retried j = true) ∧
      script.authorizes (m + 1) = true := by
  have calm := transient_of_authFailure failed
  constructor
  · rintro ⟨several, tokens, a, before, -, -, others⟩
    have same : k = a := eq_of_calm calm (by omega) others
    refine ⟨several, ?_, tokens (m + 1) (le_refl _)⟩
    intro j after most
    exact retried_iff.mpr ⟨tokens j (by omega), others j most (by omega)⟩
  · rintro ⟨several, later, last⟩
    have at_ (j : Nat) (most : j ≤ m) (other : j ≠ k) : script.retried j = true := by
      by_cases before : j < k
      · exact earlier j before
      · exact later j (by omega) most
    refine ⟨several, ?_, k, inside, failed, granted, ?_⟩
    · intro j most
      by_cases same : j = k
      · exact same ▸ authorized
      by_cases end_ : j = m + 1
      · exact end_ ▸ last
      exact (retried_iff.mp (at_ j (by omega) same)).1
    · intro j most other
      exact (retried_iff.mp (at_ j most other)).2

theorem not_repeats {script : CourierScript} {k m : Nat} (inside : k < m)
    (calm : script.transient k = false)
    (ends : script.authFailure k = true → script.refreshes (k + 1) = false) : ¬ script.repeats m := by
  rintro ⟨several, tokens, a, before, failed, granted, others⟩
  have same : k = a := eq_of_calm calm (by omega) others
  subst same
  rw [ends failed] at granted
  contradiction

end CourierScript

namespace UrbaneBoltClient

variable {script : CourierScript} {call : ApiRequest} {config : ClientConfig} {s : ClientState}

structure Progress (script : CourierScript) (s s' : ClientState) : Prop where
  grows : s.issued ≤ s'.issued
  /-- A refresh is forced only by a request of its own. -/
  refreshes : s'.refreshes + s.issued ≤ s.refreshes + s'.issued
  sends : script.authorizes s.issued = true → s.issued < s'.issued
  stays : script.authorizes s.issued = false → s'.issued = s.issued ∧ s'.refreshes = s.refreshes

theorem Attempt.progress {requestAgain : ClientM Json} {n : Nat}
    {ran : ClientState × Option (Except Thrown Json)}
    (attempt : Attempt script (some requestAgain) s ran)
    (streak : ∀ s, Streak script n s (requestAgain s).1 (requestAgain s).2) :
    Progress script s ran.1 := by
  cases attempt with
  | unauthorized denied issued refreshes final =>
    constructor <;> simp_all
  | answered authorized calm noAgain issued refreshes final =>
    constructor <;> simp_all
  | failed retried issued refreshes thrown =>
    have authorized := (CourierScript.retried_iff.mp retried).1
    constructor <;> simp_all
  | notRefreshed authorized calm first authFailure denied issued refreshes final =>
    constructor <;> simp_all
    omega
  | @refreshed after _ first authorized authFailure granted issued refreshes =>
    cases first
    have rest := streak after
    have grows := rest.grows
    have same := rest.refreshes
    constructor
    · omega
    · omega
    · omega
    · simp [authorized]

theorem Progress.trans {first second s' : ClientState} (here : Progress script s first)
    (authorized : script.authorizes s.issued = true) (issued : second.issued = first.issued)
    (refreshes : second.refreshes = first.refreshes) (rest : Progress script second s') :
    Progress script s s' := by
  have sends := here.sends authorized
  have counted := here.refreshes
  have grows := rest.grows
  have more := rest.refreshes
  constructor
  · omega
  · omega
  · omega
  · simp [authorized]

def Verdict (script : CourierScript) (m : Nat) (s' : ClientState) : Prop :=
  (¬ script.repeats m → s'.issued ≤ m + 1 ∧ s'.refreshes ≤ 1) ∧
    (script.repeats m → m + 2 ≤ s'.issued)

theorem Verdict.of_not_repeats {s' : ClientState} {m : Nat} (calm : ¬ script.repeats m)
    (issued : s'.issued ≤ m + 1) (refreshes : s'.refreshes ≤ 1) : Verdict script m s' :=
  ⟨fun _ => ⟨issued, refreshes⟩, fun repeats => absurd repeats calm⟩

section
variable {k m : Nat} {first s' : ClientState} {settled : Option (Except Thrown Json)}

theorem Verdict.of_streak (inside : k < m) (rest : Streak script m first s' settled)
    (issued : first.issued = k + 1) (refreshes : first.refreshes = 1)
    (decides : script.repeats m ↔ 2 ≤ m ∧ (∀ j, k < j → j ≤ m → script.retried j = true) ∧
      script.authorizes (m + 1) = true)
    (stops : retryable settled = false ∨ k + 1 = m) : Verdict script m s' := by
  have bounded := rest.bounded
  have counted := rest.refreshes
  constructor
  · intro calm
    refine ⟨?_, by omega⟩
    by_contra more
    apply calm
    apply decides.mpr
    refine ⟨by omega, ?_, rest.sent (m + 1) (by omega) (by omega)⟩
    intro j after most
    exact rest.retried j (by omega) (by omega)
  · intro repeats
    obtain ⟨several, later, last⟩ := decides.mp repeats
    by_cases second : k = 0
    · -- the second loop fails to its end, and so another attempt is left
      have exhausted := rest.exhausted.mpr fun j after before => later j (by omega) (by omega)
      rcases stops with final | only
      · rw [final] at exhausted
        contradiction
      · omega
    · have goesOn := rest.goesOn (m - k) (by omega) fun j after before => later j (by omega) (by omega)
      have place : first.issued + (m - k) = m + 1 := by omega
      rw [place] at goesOn
      exact goesOn last

theorem Verdict.of_progress {second third : ClientState} (inside : k + 1 < m)
    (rest : Streak script m first second settled) (exhausted : retryable settled = true)
    (issued : first.issued = k + 1) (refreshes : first.refreshes = 1)
    (decides : script.repeats m ↔ 2 ≤ m ∧ (∀ j, k < j → j ≤ m → script.retried j = true) ∧
      script.authorizes (m + 1) = true)
    (sameIssued : third.issued = second.issued) (sameRefreshes : third.refreshes = second.refreshes)
    (progress : Progress script third s') : Verdict script m s' := by
  have retried := rest.exhausted.mp exhausted
  have all : first.issued + m ≤ second.issued := by
    have goesOn := rest.goesOn (m - 1) (by omega) fun j after before => retried j after (by omega)
    have last := retried (first.issued + (m - 1)) (by omega) (by omega)
    have sent := goesOn (CourierScript.retried_iff.mp last).1
    omega
  have bounded := rest.bounded
  have counted := rest.refreshes
  have later (j : Nat) (after : k < j) (most : j ≤ m) : script.retried j = true :=
    retried j (by omega) (by omega)
  have grows := progress.grows
  constructor
  · intro calm
    cases last : script.authorizes (m + 1) with
    | true => exact absurd (decides.mpr ⟨by omega, later, last⟩) calm
    | false =>
      have zero : k = 0 := by
        by_contra positive
        have sent := (CourierScript.retried_iff.mp (retried (m + 1) (by omega) (by omega))).1
        rw [last] at sent
        contradiction
      have here : third.issued = m + 1 := by omega
      have stays := progress.stays (here ▸ last)
      omega
  · intro repeats
    obtain ⟨-, -, last⟩ := decides.mp repeats
    by_cases zero : k = 0
    · have here : third.issued = m + 1 := by omega
      have sends := progress.sends (here ▸ last)
      omega
    · omega

end

def Kept (script : CourierScript) (m n : Nat) (s s' : ClientState) : Prop :=
  Progress script s s' ∧
    (n + s.issued = m → s.refreshes = 0 → (∀ j < s.issued, script.retried j = true) →
      Verdict script m s')

theorem Kept.of_attempt {requestAgain : ClientM Json} {n m : Nat}
    {ran : ClientState × Option (Except Thrown Json)}
    (attempt : Attempt script (some requestAgain) s ran)
    (streak : ∀ s, Streak script m s (requestAgain s).1 (requestAgain s).2)
    (stops : retryable ran.2 = false ∨ n = 0) : Kept script m (n + 1) s ran.1 := by
  refine ⟨attempt.progress streak, ?_⟩
  intro total none earlier
  have inside : s.issued < m := by omega
  cases attempt with
  | unauthorized denied issued refreshes final =>
    have calm : ¬ script.repeats m := by
      rintro ⟨-, tokens, -⟩
      rw [tokens s.issued (by omega)] at denied
      contradiction
    apply Verdict.of_not_repeats calm <;> dsimp only <;> omega
  | answered authorized calm noAgain issued refreshes final =>
    have ends := CourierScript.not_repeats inside calm fun failed => absurd (noAgain failed) (by simp)
    apply Verdict.of_not_repeats ends <;> dsimp only <;> omega
  | @failed after error retried issued refreshes thrown =>
    have last : s.issued + 1 = m := by
      rcases stops with final | last
      · rw [retryable, thrown] at final
        contradiction
      · omega
    have all (j : Nat) (before : j < m) : script.retried j = true := by
      by_cases same : j = s.issued
      · exact same ▸ retried
      · exact earlier j (by omega)
    have calm : ¬ script.repeats m := by
      rintro ⟨-, -, a, before, failed, -⟩
      have transient := (CourierScript.retried_iff.mp (all a before)).2
      rw [CourierScript.transient_of_authFailure failed] at transient
      contradiction
    apply Verdict.of_not_repeats calm <;> dsimp only <;> omega
  | notRefreshed authorized calm first failed denied issued refreshes final =>
    have ends := CourierScript.not_repeats inside calm fun _ => denied
    apply Verdict.of_not_repeats ends <;> dsimp only <;> omega
  | @refreshed after _ first authorized failed granted issued refreshes =>
    cases first
    apply Verdict.of_streak inside (streak after) issued (by omega)
    · exact CourierScript.repeats_iff inside earlier authorized failed granted
    · rcases stops with final | last
      · exact .inl final
      · exact .inr (by omega)

theorem Kept.again {requestAgain : ClientM Json} {n m : Nat} {s'' s' : ClientState}
    {ran : ClientState × Option (Except Thrown Json)}
    (attempt : Attempt script (some requestAgain) s ran)
    (streak : ∀ s, Streak script m s (requestAgain s).1 (requestAgain s).2)
    (thrown : retryable ran.2 = true) (sameIssued : s''.issued = ran.1.issued)
    (sameRefreshes : s''.refreshes = ran.1.refreshes) (rest : Kept script m (n + 1) s'' s') :
    Kept script m (n + 2) s s' := by
  have progress := attempt.progress streak
  cases attempt with
  | unauthorized denied issued refreshes final => cases thrown.symm.trans final
  | answered authorized calm noAgain issued refreshes final => cases thrown.symm.trans final
  | notRefreshed authorized calm first failed denied issued refreshes final =>
    cases thrown.symm.trans final
  | @failed after error retried issued refreshes =>
    have authorized := (CourierScript.retried_iff.mp retried).1
    refine ⟨progress.trans authorized sameIssued sameRefreshes rest.1, ?_⟩
    intro total none earlier
    have here : s''.issued = s.issued + 1 := sameIssued.trans issued
    have unchanged : s''.refreshes = 0 := (sameRefreshes.trans refreshes).trans none
    apply rest.2 (by omega) unchanged
    intro j before
    by_cases same : j = s.issued
    · exact same ▸ retried
    · exact earlier j (by omega)
  | @refreshed after _ first authorized failed granted issued refreshes =>
    cases first
    refine ⟨progress.trans authorized sameIssued sameRefreshes rest.1, ?_⟩
    intro total none earlier
    apply Verdict.of_progress (by omega) (streak after) thrown issued (by omega) _ sameIssued sameRefreshes
      rest.1
    exact CourierScript.repeats_iff (by omega) earlier authorized failed granted

theorem request_verdict (config : ClientConfig) (script : CourierScript) (call : ApiRequest) :
    Verdict script (retryOptions config).attempts (request config script call false []).1 := by
  have streak := reauthenticated_streak config script call
  have kept : Kept script (retryOptions config).attempts (retryOptions config).attempts []
      (request config script call false []).1 := by
    apply withRetries_induct fun n s settled =>
      Kept script (retryOptions config).attempts n s settled.1
    · intro left s final
      exact .of_attempt (executeCall_attempt script call _ s) streak (.inl final)
    · intro s
      exact .of_attempt (executeCall_attempt script call _ s) streak (.inr rfl)
    · intro left s s' error s'' settled thrown retried issued refreshes rest
      apply Kept.again (executeCall_attempt script call _ s) streak _ _ _ rest
      · rw [thrown]
        exact retried
      · rw [thrown]
        exact issued
      · rw [thrown]
        exact refreshes
  exact kept.2 rfl rfl fun j before => absurd before (Nat.not_lt_zero j)

/-- A call stays within the configured attempts and one re-authenticated request, with one forced
refresh, exactly when the script does not repeat. -/
theorem courier_traffic (config : ClientConfig) (script : CourierScript) (call : ApiRequest)
    (positive : 1 ≤ config.retryAttempts) :
    ((request config script call false []).1.issued ≤ config.retryAttempts + 1 ∧
      (request config script call false []).1.refreshes ≤ 1) ↔
      ¬ script.repeats config.retryAttempts.toNat := by
  have attempts : (retryOptions config).attempts = config.retryAttempts.toNat := by
    simp only [RetryOptions.attempts, retryOptions]
    omega
  obtain ⟨within, beyond⟩ := attempts ▸ request_verdict config script call
  constructor
  · rintro ⟨few, -⟩ repeats
    have many := beyond repeats
    omega
  · intro calm
    obtain ⟨few, once⟩ := within calm
    refine ⟨?_, once⟩
    omega

def statusError (status : Nat) : HttpOutcome :=
  .axiosError { message := "Request failed", response := some (status, .null) }

def trackingCall : ApiRequest where
  method := .get
  url := "/services/tracking-pub/"
  params := some [("awb", .string "UB1")]

def expiredToken : CourierScript :=
  steadyTokens fun k => some (if k = 0 then statusError 401 else .reply (.array []))

theorem courier_traffic_expiredToken :
    (request ⟨3, 1000⟩ expiredToken trackingCall false []).1.issued ≤ (3 : Int) + 1 ∧
      (request ⟨3, 1000⟩ expiredToken trackingCall false []).1.refreshes ≤ 1 :=
  (courier_traffic ⟨3, 1000⟩ expiredToken trackingCall (by decide)).mpr (by decide)

def unsettledCourier : CourierScript :=
  steadyTokens fun k => some (statusError (if k % 4 = 0 then 401 else 503))

theorem courier_traffic_exceeded :
    ¬ ∀ (config : ClientConfig) (script : CourierScript) (call : ApiRequest), 1 ≤ config.retryAttempts →
      (request config script call false []).1.issued ≤ config.retryAttempts + 1 ∧
        (request config script call false []).1.refreshes ≤ 1 := by
  intro claim
  have many : (request ⟨3, 1000⟩ unsettledCourier trackingCall false []).1.issued = 12 := by
    decide +kernel
  have few := (claim ⟨3, 1000⟩ unsettledCourier trackingCall (by decide)).1
  rw [many] at few
  exact absurd few (by decide)

end UrbaneBoltClient
end CourierPlatform
