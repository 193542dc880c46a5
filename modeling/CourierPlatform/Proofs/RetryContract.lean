import Mathlib.Algebra.Order.Ring.Rat
import Mathlib.Algebra.Order.GroupWithZero.Basic
import Mathlib.Order.Bounds.Defs
import Mathlib.Tactic.NormNum
import CourierPlatform.Proofs.Retry

/-! What `retryWithBackoff` makes of a function, given how each call of it turns out: how often it is
called, what comes of it, and how long is waited in between. -/
namespace CourierPlatform

section
variable {ε α : Type} (options : RetryOptions ε) (outcome : Nat → Except ε α)

def RetryOptions.StopsAt (i : Nat) : Prop :=
  (∃ a, outcome i = .ok a) ∨
    (∃ error, outcome i = .error error ∧ options.shouldRetry error i = false) ∨
    (i : Int) = max 1 options.maxAttempts

def RetryOptions.delayAfter (i : Nat) : Rat :=
  min (options.initialDelayMs * options.backoffFactor ^ (i - 1)) options.maxDelayMs

theorem RetryOptions.backoff_succ {i : Nat} (first : 1 ≤ i) :
    options.initialDelayMs * options.backoffFactor ^ (i - 1) * options.backoffFactor =
      options.initialDelayMs * options.backoffFactor ^ (i + 1 - 1) := by
  rw [Rat.mul_assoc, ← pow_succ]
  congr 2
  omega

structure RetryTrace (ε : Type) where
  calls : Nat
  onRetry : List (ε × Nat × Rat)
  delays : List Rat

namespace RetryTrace

def start : RetryTrace ε := ⟨0, [], []⟩

def sleep (error : ε) (attempt : Nat) (delayMs : Rat) (trace : RetryTrace ε) : RetryTrace ε where
  calls := trace.calls
  onRetry := trace.onRetry ++ [(error, attempt, delayMs)]
  delays := trace.delays ++ [delayMs]

/-- The function whose call `i`, counted from one, turns out as `outcome i`. -/
def scripted : Async (RetryTrace ε) ε α := fun trace =>
  ({ trace with calls := trace.calls + 1 }, some (outcome (trace.calls + 1)))

theorem scripted_apply (trace : RetryTrace ε) : scripted outcome trace =
    ({ trace with calls := trace.calls + 1 }, some (outcome (trace.calls + 1))) := rfl

structure Retried (first n : Nat) (s t : RetryTrace ε) : Prop where
  stops : options.StopsAt outcome (first + n)
  before : ∀ i, first ≤ i → i < first + n → ¬ options.StopsAt outcome i
  calls : t.calls = s.calls + n + 1
  onRetry : t.onRetry.map (fun retry => ((.error retry.1 : Except ε α), retry.2)) =
    s.onRetry.map (fun retry => ((.error retry.1 : Except ε α), retry.2)) ++
      (List.range' first n).map fun i => (outcome i, i, options.delayAfter i)
  delays : t.delays = s.delays ++ (List.range' first n).map options.delayAfter

end RetryTrace

variable {options : RetryOptions ε} {outcome : Nat → Except ε α} {random : RetryTrace ε → Rat}
open RetryTrace

theorem retryLoop_stops {left attempt : Nat} {delay : Rat} {s : RetryTrace ε}
    (here : s.calls + 1 = attempt) (stops : options.StopsAt outcome attempt) :
    retryLoop options.maxAttempts options random sleep (scripted outcome) (left + 1) attempt delay s =
      ({ s with calls := attempt }, some (outcome attempt)) := by
  subst here
  cases turned : outcome (s.calls + 1) with
  | ok a => simp only [retryLoop, scripted_apply, turned]
  | error error =>
    simp only [retryLoop, scripted_apply, turned]
    refine if_pos ?_
    rcases stops with ⟨a, fine⟩ | ⟨other, same, given⟩ | last
    · rw [turned] at fine
      contradiction
    · rw [turned] at same
      cases same
      simp [given]
    · have reached : options.maxAttempts ≤ (s.calls : Int) + 1 := by omega
      simp [reached]

theorem retryLoop_again (random : RetryTrace ε → Rat) (left : Nat) (delay : Rat) {attempt : Nat}
    {s : RetryTrace ε} (here : s.calls + 1 = attempt) (under : attempt ≤ options.attempts)
    (goes : ¬ options.StopsAt outcome attempt) : ∃ error, outcome attempt = .error error ∧
      attempt < options.attempts ∧
      retryLoop options.maxAttempts options random sleep (scripted outcome) (left + 1) attempt delay s =
        retryLoop options.maxAttempts options random sleep (scripted outcome) left (attempt + 1)
          (delay * options.backoffFactor)
          (sleep error attempt
            (options.sleepDuration delay (random { s with calls := attempt }))
            { s with calls := attempt }) := by
  subst here
  simp only [RetryOptions.StopsAt, not_or, not_exists, not_and] at goes
  obtain ⟨fails, retried, more⟩ := goes
  cases turned : outcome (s.calls + 1) with
  | ok a => exact absurd turned (fails a)
  | error error =>
    unfold RetryOptions.attempts at under ⊢
    have asked : options.shouldRetry error (s.calls + 1) = true := by simpa using retried error turned
    refine ⟨error, rfl, by omega, ?_⟩
    simp only [retryLoop, scripted_apply, turned]
    refine if_neg ?_
    simp only [asked, attemptsExhausted_some, Bool.not_true, Bool.or_false, decide_eq_true_eq]
    omega

/-- The loop from any attempt on. The induction is on the attempts that may still be made. -/
theorem retryLoop_retried (exact : options.jitter = false) (outcome : Nat → Except ε α)
    (random : RetryTrace ε → Rat) (left attempt : Nat) (first : 1 ≤ attempt)
    (total : attempt + left = options.attempts) (s : RetryTrace ε) (here : s.calls + 1 = attempt) :
    ∃ n t, Retried options outcome attempt n s t ∧
      retryLoop options.maxAttempts options random sleep (scripted outcome) (left + 1) attempt
        (options.initialDelayMs * options.backoffFactor ^ (attempt - 1)) s =
          (t, some (outcome (attempt + n))) := by
  induction left generalizing attempt s with
  | zero =>
    have stops : options.StopsAt outcome attempt := by
      by_contra goes
      obtain ⟨error, -, more, -⟩ := retryLoop_again random 0 0 here (by omega) goes
      omega
    refine ⟨0, _, ⟨stops, ?_, here.symm, by simp, by simp⟩, retryLoop_stops here stops⟩
    intro i from_ below
    omega
  | succ left ih =>
    by_cases stops : options.StopsAt outcome attempt
    · refine ⟨0, _, ⟨stops, ?_, here.symm, by simp, by simp⟩, retryLoop_stops here stops⟩
      intro i from_ below
      omega
    · obtain ⟨error, failed, more, again⟩ := retryLoop_again random (left + 1)
        (options.initialDelayMs * options.backoffFactor ^ (attempt - 1)) here (by omega) stops
      have delayed : options.sleepDuration
          (options.initialDelayMs * options.backoffFactor ^ (attempt - 1))
          (random { s with calls := attempt }) = options.delayAfter attempt := by
        simp [RetryOptions.sleepDuration, exact, RetryOptions.delayAfter]
      rw [delayed, options.backoff_succ first] at again
      obtain ⟨n, t, retried, ran⟩ := ih (attempt + 1) (by omega) (by omega)
        (sleep error attempt (options.delayAfter attempt) { s with calls := attempt }) rfl
      refine ⟨n + 1, t, ⟨?_, ?_, ?_, ?_, ?_⟩, ?_⟩
      · rw [← Nat.add_assoc, Nat.add_right_comm]
        exact retried.stops
      · intro i from_ below
        rcases Nat.eq_or_lt_of_le from_ with rfl | later
        · exact stops
        · exact retried.before i later (by omega)
      · rw [retried.calls]
        change attempt + n + 1 = _
        omega
      · rw [retried.onRetry, List.range'_succ, sleep]
        simp [failed]
      · rw [retried.delays, List.range'_succ, sleep]
        simp
      · rw [again, ran, ← Nat.add_assoc, Nat.add_right_comm]

theorem RetryOptions.delayAfter_mono (initial : 0 ≤ options.initialDelayMs)
    (factor : 1 ≤ options.backoffFactor) : Monotone options.delayAfter := by
  intro i j le
  refine min_le_min_right _ (mul_le_mul_of_nonneg_left ?_ initial)
  exact pow_le_pow_right₀ factor (by omega)

/-- How a `retryWithBackoff` call without jitter goes, for every script of outcomes. -/
theorem retryWithBackoff_scripted (options : RetryOptions ε) (exact : options.jitter = false)
    (initial : 0 ≤ options.initialDelayMs) (factor : 1 ≤ options.backoffFactor) (outcome : Nat → Except ε α)
    (random : RetryTrace ε → Rat) :
    ∃ k t, IsLeast {i | 1 ≤ i ∧ options.StopsAt outcome i} k ∧
      retryWithBackoff options random sleep (scripted outcome) .start = (t, some (outcome k)) ∧
      t.calls = k ∧
      (t.onRetry.map fun retry => ((.error retry.1 : Except ε α), retry.2)) =
        (List.range' 1 (k - 1)).map (fun i => (outcome i, i, options.delayAfter i)) ∧
      t.delays = (List.range' 1 (k - 1)).map options.delayAfter ∧
      Monotone options.delayAfter := by
  obtain ⟨left, attempts⟩ : ∃ left, options.attempts = left + 1 :=
    Nat.exists_eq_add_one.mpr options.attempts_pos
  obtain ⟨n, t, retried, ran⟩ := retryLoop_retried exact outcome random left 1 (le_refl 1) (by omega)
    .start rfl
  refine ⟨n + 1, t, ⟨⟨by omega, Nat.add_comm 1 n ▸ retried.stops⟩, ?_⟩, ?_, ?_, ?_, ?_, ?_⟩
  · rintro i ⟨positive, stops⟩
    by_contra earlier
    exact retried.before i positive (by omega) stops
  · rw [Nat.sub_self, pow_zero, mul_one] at ran
    rw [retryWithBackoff, attempts, ran, Nat.add_comm]
  · simpa [RetryTrace.start] using retried.calls
  · simpa [RetryTrace.start] using retried.onRetry
  · simpa [RetryTrace.start] using retried.delays
  · exact options.delayAfter_mono initial factor

end

theorem retryWithBackoff_scripted_recovered :
    ∃ t : RetryTrace String, t.calls = 3 ∧ t.delays = [10, 15] := by
  let options : RetryOptions String :=
    { maxAttempts := 5, initialDelayMs := 10, maxDelayMs := 15, jitter := false }
  let outcome : Nat → Except String Nat := fun i => if i < 3 then .error "down" else .ok i
  obtain ⟨k, t, ⟨stops, least⟩, -, calls, -, delays, -⟩ :=
    retryWithBackoff_scripted options rfl (by decide) (by decide) outcome fun _ => 0
  have third : k ≤ 3 := least ⟨by decide, .inl ⟨3, rfl⟩⟩
  have not_before : ¬ k < 3 := by
    rintro before
    obtain ⟨-, ⟨a, fine⟩ | ⟨error, -, given⟩ | last⟩ := stops
    · simp [outcome, before] at fine
    · simp [options] at given
    · simp only [options] at last
      omega
  obtain rfl : k = 3 := by omega
  refine ⟨t, calls, ?_⟩
  rw [delays]
  norm_num [options, RetryOptions.delayAfter, List.range']

end CourierPlatform
