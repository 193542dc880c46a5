import Mathlib.Algebra.Order.Ring.Unbundled.Rat

/-! `retryWithBackoff`, and the calls it repeats. A call that awaits is a function of the outside
world: what it leaves of it, and how its promise settles, if it ever does. -/
namespace CourierPlatform

def Async (σ ε α : Type) : Type := σ → σ × Option (Except ε α)

namespace Async

variable {σ ε α β : Type}

def throw (error : ε) : Async σ ε α := fun s => (s, some (.error error))

def never : Async σ ε α := fun s => (s, none)

def modify (change : σ → σ) : Async σ ε Unit := fun s => (change s, some (.ok ()))

def gets (read : σ → α) : Async σ ε α := fun s => (s, some (.ok (read s)))

/-- `await first`, then the rest. -/
def bind (first : Async σ ε α) (rest : α → Async σ ε β) : Async σ ε β := fun s =>
  match first s with
  | (s', some (.ok a)) => rest a s'
  | (s', some (.error error)) => (s', some (.error error))
  | (s', none) => (s', none)

instance : Monad (Async σ ε) where
  pure a := fun s => (s, some (.ok a))
  bind := bind

@[simp] theorem pure_apply (a : α) (s : σ) :
    (Pure.pure a : Async σ ε α) s = (s, some (.ok a)) := rfl

@[simp] theorem throw_apply (error : ε) (s : σ) :
    (throw error : Async σ ε α) s = (s, some (.error error)) := rfl

@[simp] theorem never_apply (s : σ) : (never : Async σ ε α) s = (s, none) := rfl

@[simp] theorem modify_bind (change : σ → σ) (rest : Unit → Async σ ε β) (s : σ) :
    (modify change >>= rest) s = rest () (change s) := rfl

@[simp] theorem gets_bind (read : σ → α) (rest : α → Async σ ε β) (s : σ) :
    (gets read >>= rest) s = rest (read s) s := rfl

theorem bind_apply (first : Async σ ε α) (rest : α → Async σ ε β) (s : σ) :
    (first >>= rest) s = match first s with
      | (s', some (.ok a)) => rest a s'
      | (s', some (.error error)) => (s', some (.error error))
      | (s', none) => (s', none) := rfl

end Async

structure RetryOptions (ε : Type) where
  maxAttempts : Int
  initialDelayMs : Rat
  maxDelayMs : Rat := 30000
  backoffFactor : Rat := 2
  jitter : Bool := true
  shouldRetry : ε → Nat → Bool := fun _ _ => true

def roundHalfUp (x : Rat) : Int := (x + 1 / 2).floor

def RetryOptions.sleepDuration {ε : Type} (options : RetryOptions ε) (currentDelay random : Rat) : Rat :=
  let sleepDuration := min currentDelay options.maxDelayMs
  if options.jitter then
    let jitterMultiplier := 8 / 10 + random * (4 / 10)
    roundHalfUp (sleepDuration * jitterMultiplier)
  else sleepDuration

section
variable {σ ε α : Type}

/-- `attempt >= maxAttempts`, which is false of `NaN`. -/
def attemptsExhausted (maxAttempts : Option Int) (attempt : Nat) : Bool :=
  maxAttempts.any fun maxAttempts : Int => attempt ≥ maxAttempts

@[simp] theorem attemptsExhausted_some (maxAttempts : Int) (attempt : Nat) :
    attemptsExhausted (some maxAttempts) attempt = decide (maxAttempts ≤ attempt) := rfl

@[simp] theorem attemptsExhausted_none (attempt : Nat) : attemptsExhausted none attempt = false := rfl

/-- The `while (true)` loop from this attempt on. `random` reads the next draw, and `sleep` is what
`onRetry` and the delay leave of the world. `maxAttempts` stands for that of the options: an integer,
or `NaN`, which is `none`. The loop is pending when the fuel runs out. -/
def retryLoop (maxAttempts : Option Int) (options : RetryOptions ε) (random : σ → Rat)
    (sleep : ε → Nat → Rat → σ → σ) (fn : Async σ ε α) (fuel attempt : Nat) (currentDelay : Rat) :
    Async σ ε α :=
  match fuel with
  | 0 => .never
  | fuel + 1 => fun s =>
    match fn s with
    | (s', some (.error error)) =>
      if attemptsExhausted maxAttempts attempt || !options.shouldRetry error attempt then
        (s', some (.error error))
      else
        retryLoop maxAttempts options random sleep fn fuel (attempt + 1)
          (currentDelay * options.backoffFactor)
          (sleep error attempt (options.sleepDuration currentDelay (random s')) s')
    | settled => settled

def RetryOptions.attempts (options : RetryOptions ε) : Nat := (max 1 options.maxAttempts).toNat

def retryWithBackoff (options : RetryOptions ε) (random : σ → Rat) (sleep : ε → Nat → Rat → σ → σ)
    (fn : Async σ ε α) : Async σ ε α :=
  retryLoop options.maxAttempts options random sleep fn options.attempts 1 options.initialDelayMs

end
end CourierPlatform
