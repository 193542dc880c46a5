import CourierPlatform.Library.Lists
import CourierPlatform.Proofs.RetryContract
import Mathlib.Algebra.Order.Field.Basic
import Mathlib.Tactic.Linarith

/-! How long `retryWithBackoff` sleeps under jitter. The delay is capped before the jitter multiplies
it, so that the draws decide which sleeps stay under the cap. -/
namespace CourierPlatform
open Library RetryTrace

section
variable {ε α : Type} (maxAttempts : Option Int) (options : RetryOptions ε) (outcome : Nat → Except ε α)
  (draws : Nat → Rat)

def RetryOptions.retries (i : Nat) : Bool :=
  match outcome i with
  | .ok _ => false
  | .error error => !attemptsExhausted maxAttempts i && options.shouldRetry error i

def RetryOptions.GoesOnAfter (i : Nat) : Prop :=
  1 ≤ i ∧ ∀ j, 1 ≤ j → j ≤ i → options.retries maxAttempts outcome j = true

def RetryOptions.sleeps (fuel : Nat) : List Rat :=
  (retryLoop maxAttempts options (fun trace => draws trace.calls) sleep (scripted outcome) fuel 1
    options.initialDelayMs .start).1.delays

def RetryOptions.SleepsCapped : Prop :=
  ∀ fuel, ∀ delayMs ∈ options.sleeps maxAttempts outcome draws fuel, delayMs ≤ options.maxDelayMs

def UnitDraws (draws : Nat → Rat) : Prop := ∀ i, 0 ≤ draws i ∧ draws i < 1

/-- The draw from which on the jitter lifts the sleep after the attempt `i` above the cap. -/
def RetryOptions.drawLimit (i : Nat) : Rat :=
  ((options.maxDelayMs.floor + 1 / 2) / options.delayAfter i - 8 / 10) / (4 / 10)

variable {maxAttempts options outcome draws}

theorem retryLoop_final {fuel attempt : Nat} {delay : Rat} {s : RetryTrace ε}
    (here : s.calls + 1 = attempt) (final : options.retries maxAttempts outcome attempt = false) :
    (retryLoop maxAttempts options (fun trace => draws trace.calls) sleep (scripted outcome)
      (fuel + 1) attempt delay s).1.delays = s.delays := by
  subst here
  unfold RetryOptions.retries at final
  rw [retryLoop]
  cases turned : outcome (s.calls + 1) with
  | ok a => simp only [scripted_apply, turned]
  | error error =>
    simp only [turned, Bool.and_eq_false_iff, Bool.not_eq_false'] at final
    have stops : (attemptsExhausted maxAttempts (s.calls + 1) ||
        !options.shouldRetry error (s.calls + 1)) = true := by
      rcases final with last | given <;> simp [*]
    simp only [scripted_apply, turned, stops, if_true]

theorem retryLoop_sleeps {fuel attempt : Nat} {delay : Rat} {s : RetryTrace ε}
    (here : s.calls + 1 = attempt) (again : options.retries maxAttempts outcome attempt = true) :
    ∃ error, retryLoop maxAttempts options (fun trace => draws trace.calls) sleep
        (scripted outcome) (fuel + 1) attempt delay s =
      retryLoop maxAttempts options (fun trace => draws trace.calls) sleep
        (scripted outcome) fuel (attempt + 1) (delay * options.backoffFactor)
        (sleep error attempt (options.sleepDuration delay (draws attempt)) { s with calls := attempt }) := by
  subst here
  unfold RetryOptions.retries at again
  rw [retryLoop]
  cases turned : outcome (s.calls + 1) with
  | ok a => simp [turned] at again
  | error error =>
    simp only [turned, Bool.and_eq_true, Bool.not_eq_true'] at again
    refine ⟨error, ?_⟩
    simp [scripted_apply, turned, again]

variable (maxAttempts options outcome draws) in
theorem retryLoop_delays (fuel attempt : Nat) (first : 1 ≤ attempt) (s : RetryTrace ε)
    (here : s.calls + 1 = attempt) :
    (retryLoop maxAttempts options (fun trace => draws trace.calls) sleep (scripted outcome)
      fuel attempt (options.initialDelayMs * options.backoffFactor ^ (attempt - 1)) s).1.delays =
      s.delays ++ ((List.range' attempt fuel).takeWhile (options.retries maxAttempts outcome)).map
        fun i => options.sleepDuration (options.initialDelayMs * options.backoffFactor ^ (i - 1))
          (draws i) := by
  induction fuel generalizing attempt s with
  | zero => simp [retryLoop]
  | succ fuel ih =>
    rw [List.range'_succ, List.takeWhile_cons]
    cases retried : options.retries maxAttempts outcome attempt with
    | false => simp [retryLoop_final here retried]
    | true =>
      obtain ⟨error, again⟩ := retryLoop_sleeps here retried
      rw [again, options.backoff_succ first, ih (attempt + 1) (by omega) _ rfl]
      simp [sleep]

theorem mem_sleeps {delayMs : Rat} :
    (∃ fuel, delayMs ∈ options.sleeps maxAttempts outcome draws fuel) ↔
      ∃ i, options.GoesOnAfter maxAttempts outcome i ∧
        options.sleepDuration (options.initialDelayMs * options.backoffFactor ^ (i - 1)) (draws i) =
          delayMs := by
  have delays (fuel : Nat) : options.sleeps maxAttempts outcome draws fuel =
      ((List.range' 1 fuel).takeWhile (options.retries maxAttempts outcome)).map fun i =>
        options.sleepDuration (options.initialDelayMs * options.backoffFactor ^ (i - 1)) (draws i) := by
    have loop := retryLoop_delays maxAttempts options outcome draws fuel 1 (le_refl 1) .start rfl
    rw [Nat.sub_self, pow_zero, mul_one] at loop
    exact loop
  simp only [delays, List.mem_map, mem_takeWhile_range']
  constructor
  · rintro ⟨fuel, i, ⟨first, -, all⟩, same⟩
    exact ⟨i, ⟨first, all⟩, same⟩
  · rintro ⟨i, ⟨first, all⟩, same⟩
    exact ⟨i, i, ⟨first, by omega, all⟩, same⟩

theorem roundHalfUp_le_iff {x bound : Rat} :
    (roundHalfUp x : Rat) ≤ bound ↔ x < bound.floor + 1 / 2 := by
  have whole : (roundHalfUp x : Rat) ≤ bound ↔ roundHalfUp x ≤ bound.floor :=
    Rat.le_floor_iff.symm
  have below : roundHalfUp x ≤ bound.floor ↔ x + 1 / 2 < (bound.floor + 1 : Int) := by
    rw [← Int.lt_add_one_iff]
    exact Rat.floor_lt_iff
  rw [whole, below, Rat.intCast_add]
  constructor <;> intro h <;> push_cast at h ⊢ <;> linarith

theorem roundHalfUp_intCast (n : Int) : roundHalfUp n = n := by
  have above : (n : Rat) + 1 / 2 < (n + 1 : Int) := by
    push_cast
    linarith
  exact le_antisymm (Int.lt_add_one_iff.mp (Rat.floor_lt_iff.mpr above))
    (Rat.le_floor_iff.mpr (by linarith))

theorem cast_floor_nonneg {cap : Rat} (capped : 0 ≤ cap) : (0 : Rat) ≤ cap.floor := by
  exact_mod_cast Rat.le_floor_iff.mpr (by simpa using capped)

theorem jittered_le_iff {delay cap draw : Rat} (nonneg : 0 ≤ draw) (capped : 0 ≤ cap) :
    (roundHalfUp (delay * (8 / 10 + draw * (4 / 10))) : Rat) ≤ cap ↔
      delay ≤ 0 ∨ draw < ((cap.floor + 1 / 2) / delay - 8 / 10) / (4 / 10) := by
  rw [roundHalfUp_le_iff]
  rcases le_or_gt delay 0 with none | positive
  · refine iff_of_true ?_ (.inl none)
    have whole : (0 : Rat) ≤ cap.floor := cast_floor_nonneg capped
    have product : delay * (8 / 10 + draw * (4 / 10)) ≤ 0 :=
      mul_nonpos_of_nonpos_of_nonneg none (by linarith)
    linarith
  · rw [or_iff_right (not_le_of_gt positive), lt_div_iff₀ (by norm_num), lt_sub_iff_add_lt,
      lt_div_iff₀ positive, mul_comm delay, add_comm (8 / 10)]

theorem sleepDuration_jittered (jitter : options.jitter = true) (i : Nat) (draw : Rat) :
    options.sleepDuration (options.initialDelayMs * options.backoffFactor ^ (i - 1)) draw =
      roundHalfUp (options.delayAfter i * (8 / 10 + draw * (4 / 10))) := by
  simp [RetryOptions.sleepDuration, jitter, RetryOptions.delayAfter]

theorem drawLimit_lt_one_iff {i : Nat} (cap : 0 ≤ options.maxDelayMs) :
    0 < options.delayAfter i ∧ options.drawLimit i < 1 ↔
      options.maxDelayMs.floor + 1 / 2 < 6 / 5 * options.delayAfter i := by
  have whole : (0 : Rat) ≤ options.maxDelayMs.floor := cast_floor_nonneg cap
  unfold RetryOptions.drawLimit
  constructor
  · rintro ⟨positive, below⟩
    rw [div_lt_one (by norm_num), sub_lt_iff_lt_add, div_lt_iff₀ positive] at below
    linarith
  · intro tight
    have positive : 0 < options.delayAfter i := by linarith
    refine ⟨positive, ?_⟩
    rw [div_lt_one (by norm_num), sub_lt_iff_lt_add, div_lt_iff₀ positive]
    linarith

theorem sleepsCapped_iff (jitter : options.jitter = true) (cap : 0 ≤ options.maxDelayMs)
    (range : UnitDraws draws) : options.SleepsCapped maxAttempts outcome draws ↔
      ∀ i, options.GoesOnAfter maxAttempts outcome i →
        options.delayAfter i ≤ 0 ∨ draws i < options.drawLimit i := by
  have each (i : Nat) : options.sleepDuration
      (options.initialDelayMs * options.backoffFactor ^ (i - 1)) (draws i) ≤ options.maxDelayMs ↔
        options.delayAfter i ≤ 0 ∨ draws i < options.drawLimit i := by
    rw [sleepDuration_jittered jitter, jittered_le_iff (range i).1 cap]
    rfl
  constructor
  · intro capped i goesOn
    obtain ⟨fuel, slept⟩ := mem_sleeps.mpr ⟨i, goesOn, rfl⟩
    exact (each i).mp (capped fuel _ slept)
  · intro small fuel delayMs slept
    obtain ⟨i, goesOn, rfl⟩ := mem_sleeps.mp ⟨fuel, slept⟩
    exact (each i).mpr (small i goesOn)

theorem sleepsCapped_forall_iff (jitter : options.jitter = true) (cap : 0 ≤ options.maxDelayMs) :
    (∀ draws, UnitDraws draws → options.SleepsCapped maxAttempts outcome draws) ↔
      ∀ i, options.GoesOnAfter maxAttempts outcome i →
        6 / 5 * options.delayAfter i ≤ options.maxDelayMs.floor + 1 / 2 := by
  constructor
  · intro capped i goesOn
    by_contra tight
    obtain ⟨positive, limit⟩ := (drawLimit_lt_one_iff cap).mpr (lt_of_not_ge tight)
    -- the least draw that is too large, after every attempt
    have range : UnitDraws fun _ => max 0 (options.drawLimit i) := fun _ =>
      ⟨le_max_left _ _, max_lt one_pos limit⟩
    rcases (sleepsCapped_iff jitter cap range).mp (capped _ range) i goesOn with none | below
    · exact not_lt_of_ge none positive
    · exact not_lt_of_ge (le_max_right _ _) below
  · intro room draws range
    refine (sleepsCapped_iff jitter cap range).mpr fun i goesOn => ?_
    rcases le_or_gt (options.delayAfter i) 0 with none | positive
    · exact .inl none
    · refine .inr (lt_of_lt_of_le (range i).2 ?_)
      by_contra low
      exact not_lt_of_ge (room i goesOn) ((drawLimit_lt_one_iff cap).mp ⟨positive, lt_of_not_ge low⟩)

/-- No sleep is longer than the cap exactly if each draw that is used stays below the limit of its delay;
and whatever is drawn, exactly if each delay leaves room for the most that the jitter can add. -/
theorem retryWithBackoff_sleepsCapped (maxAttempts : Option Int) (options : RetryOptions ε)
    (jitter : options.jitter = true) (cap : 0 ≤ options.maxDelayMs) (outcome : Nat → Except ε α) :
    (∀ draws, UnitDraws draws → (options.SleepsCapped maxAttempts outcome draws ↔
      ∀ i, options.GoesOnAfter maxAttempts outcome i →
        options.delayAfter i ≤ 0 ∨ draws i < options.drawLimit i)) ∧
    ((∀ draws, UnitDraws draws → options.SleepsCapped maxAttempts outcome draws) ↔
      ∀ i, options.GoesOnAfter maxAttempts outcome i →
        6 / 5 * options.delayAfter i ≤ options.maxDelayMs.floor + 1 / 2) :=
  ⟨fun _ range => sleepsCapped_iff jitter cap range, sleepsCapped_forall_iff jitter cap⟩

end

def alwaysDown : Nat → Except String Unit := fun _ => .error "down"

theorem retryWithBackoff_sleepsCapped_default : RetryOptions.SleepsCapped (some 3)
    { maxAttempts := 3, initialDelayMs := 1000 } alwaysDown fun _ => 9 / 10 := by
  apply (retryWithBackoff_sleepsCapped (some 3) { maxAttempts := 3, initialDelayMs := 1000 } rfl
    (by norm_num) alwaysDown).2.mpr
  · rintro i ⟨first, all⟩
    have before : i < 3 := by
      by_contra late
      exact absurd (all 3 (by decide) (by omega)) (by decide)
    have whole : (30000 : Rat).floor = 30000 := rfl
    obtain rfl | rfl : i = 1 ∨ i = 2 := by omega
    · norm_num [RetryOptions.delayAfter, whole]
    · norm_num [RetryOptions.delayAfter, whole]
  · intro i
    norm_num

def cappedAtOnce : RetryOptions String where
  maxAttempts := 2
  initialDelayMs := 1000
  maxDelayMs := 1000

/-- A draw of 0.9 makes the sleep 1160 milliseconds long. -/
theorem sleeps_above_maxDelay : UnitDraws (fun _ => 9 / 10) ∧
    ¬ cappedAtOnce.SleepsCapped (some 2) alwaysDown fun _ => 9 / 10 := by
  constructor
  · intro i
    norm_num
  · intro capped
    have goesOn : cappedAtOnce.GoesOnAfter (some 2) alwaysDown 1 := by
      refine ⟨le_refl 1, fun j low high => ?_⟩
      rw [Nat.le_antisymm high low]
      rfl
    have long : cappedAtOnce.sleepDuration
        (cappedAtOnce.initialDelayMs * cappedAtOnce.backoffFactor ^ (1 - 1)) (9 / 10) = 1160 := by
      have rounded : roundHalfUp 1160 = 1160 := roundHalfUp_intCast 1160
      norm_num [cappedAtOnce, RetryOptions.sleepDuration, rounded]
    obtain ⟨fuel, slept⟩ : ∃ fuel, (1160 : Rat) ∈
        cappedAtOnce.sleeps (some 2) alwaysDown (fun _ => 9 / 10) fuel :=
      mem_sleeps.mpr ⟨1, goesOn, long⟩
    have short : (1160 : Rat) ≤ 1000 := capped fuel 1160 slept
    norm_num at short

end CourierPlatform
