import CourierPlatform.Model.Retry

/-! The rule for `retryWithBackoff`: what is proved of a call and of one attempt holds of all of them. -/
namespace CourierPlatform

section
variable {σ ε α : Type} {options : RetryOptions ε} {random : σ → Rat}
  {sleep : ε → Nat → Rat → σ → σ} {fn : Async σ ε α}

theorem RetryOptions.attempts_pos (options : RetryOptions ε) : 0 < options.attempts := by
  unfold attempts
  omega

theorem retryLoop_induct (motive : Nat → σ → σ × Option (Except ε α) → Prop)
    (stops : ∀ attempt left s,
      (∀ error, (fn s).2 = some (.error error) → options.shouldRetry error attempt = false) →
      motive (left + 1) s (fn s))
    (last : ∀ s, motive 1 s (fn s))
    (again : ∀ attempt left s s' error delay settled, fn s = (s', some (.error error)) →
      options.shouldRetry error attempt = true →
      motive (left + 1) (sleep error attempt delay s') settled → motive (left + 2) s settled)
    (left attempt : Nat) (delay : Rat) (s : σ) (first : 1 ≤ attempt)
    (total : attempt + left = options.attempts) :
    motive (left + 1) s
      (retryLoop options.maxAttempts options random sleep fn (left + 1) attempt delay s) := by
  induction left generalizing attempt delay s with
  | zero =>
    have reached : options.maxAttempts ≤ attempt := by
      unfold RetryOptions.attempts at total
      omega
    have same : retryLoop options.maxAttempts options random sleep fn 1 attempt delay s = fn s := by
      unfold retryLoop
      split
      next s' error thrown => rw [if_pos (by simp [reached]), thrown]
      next => rfl
    exact same ▸ last s
  | succ left ih =>
    have under : ¬ options.maxAttempts ≤ attempt := by
      unfold RetryOptions.attempts at total
      omega
    unfold retryLoop
    split
    next s' error thrown =>
      cases retried : options.shouldRetry error attempt with
      | true =>
        rw [if_neg (by simp [under])]
        exact again attempt left s s' error _ _ thrown retried (ih _ _ _ (by omega) (by omega))
      | false =>
        rw [if_pos (by simp), ← thrown]
        apply stops attempt
        intro other here
        rw [thrown, Option.some.injEq, Except.error.injEq] at here
        exact here ▸ retried
    next settled calm =>
      apply stops attempt
      intro error here
      exact (calm (fn s).1 error (Prod.ext rfl here)).elim

theorem retryWithBackoff_induct (motive : Nat → σ → σ × Option (Except ε α) → Prop)
    (stops : ∀ attempt left s,
      (∀ error, (fn s).2 = some (.error error) → options.shouldRetry error attempt = false) →
      motive (left + 1) s (fn s))
    (last : ∀ s, motive 1 s (fn s))
    (again : ∀ attempt left s s' error delay settled, fn s = (s', some (.error error)) →
      options.shouldRetry error attempt = true →
      motive (left + 1) (sleep error attempt delay s') settled → motive (left + 2) s settled)
    (s : σ) : motive options.attempts s (retryWithBackoff options random sleep fn s) := by
  obtain ⟨left, attempts⟩ : ∃ left, options.attempts = left + 1 :=
    Nat.exists_eq_add_one.mpr options.attempts_pos
  unfold retryWithBackoff
  rw [attempts]
  exact retryLoop_induct motive stops last again left 1 _ s (le_refl 1) (by omega)

end
end CourierPlatform
