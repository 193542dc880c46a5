import CourierPlatform.Proofs.Retry

/-! Rules of pre- and postconditions for calls that await. A postcondition is told how the promise has
settled, `none` if it never does. -/
namespace CourierPlatform
namespace Async

variable {σ ε α β : Type} {pre pre' : σ → Prop} {post post' : σ → Option (Except ε α) → Prop}

def Triple (pre : σ → Prop) (call : Async σ ε α) (post : σ → Option (Except ε α) → Prop) : Prop :=
  ∀ s, pre s → post (call s).1 (call s).2

/-- The postcondition of the first of two calls: only where it returns, the second is made. -/
def first (returns : β → σ → Prop) (post : σ → Option (Except ε α) → Prop) (s : σ) :
    Option (Except ε β) → Prop
  | some (.ok b) => returns b s
  | some (.error error) => post s (some (.error error))
  | none => post s none

namespace Triple

theorem weaken {call : Async σ ε α} (h : Triple pre call post) (first : ∀ s, pre' s → pre s)
    (last : ∀ s settled, post s settled → post' s settled) : Triple pre' call post' :=
  fun s holds => last _ _ (h s (first s holds))

theorem pure {a : α} (h : ∀ s, pre s → post s (some (.ok a))) : Triple pre (Pure.pure a) post := h

theorem throw {error : ε} (h : ∀ s, pre s → post s (some (.error error))) :
    Triple pre (Async.throw error) post := h

theorem never (h : ∀ s, pre s → post s none) : Triple pre Async.never post := h

theorem modify {change : σ → σ} {rest : Unit → Async σ ε α}
    (h : Triple (fun s => ∃ before, pre before ∧ s = change before) (rest ()) post) :
    Triple pre (Async.modify change >>= rest) post :=
  fun s holds => h (change s) ⟨s, holds, rfl⟩

theorem gets {read : σ → β} {rest : β → Async σ ε α}
    (h : ∀ b, Triple (fun s => pre s ∧ read s = b) (rest b) post) :
    Triple pre (Async.gets read >>= rest) post :=
  fun s holds => h (read s) s ⟨holds, rfl⟩

theorem bind {call : Async σ ε β} {rest : β → Async σ ε α} {middle : β → σ → Prop}
    (h : Triple pre call (first middle post)) (next : ∀ b, Triple (middle b) (rest b) post) :
    Triple pre (call >>= rest) post := by
  intro s holds
  have reached := h s holds
  rw [Async.bind_apply]
  generalize call s = ran at reached ⊢
  obtain ⟨after, settled⟩ := ran
  cases settled with
  | none => exact reached
  | some result =>
    cases result with
    | error error => exact reached
    | ok b => exact next b after reached

theorem retry {options : RetryOptions ε} {random : σ → Rat} {sleep : ε → Nat → Rat → σ → σ}
    {fn : Async σ ε α} (attempt : Triple pre fn post)
    (again : ∀ s error k delay, post s (some (.error error)) → options.shouldRetry error k = true →
      pre (sleep error k delay s)) :
    Triple pre (retryWithBackoff options random sleep fn) post := by
  refine fun s => retryWithBackoff_induct (fun _ s ran => pre s → post ran.1 ran.2) ?_ ?_ ?_ s
  · intro _ _ s _ holds
    exact attempt s holds
  · intro s holds
    exact attempt s holds
  · intro k left s s' error delay ran thrown retried rest holds
    have failed := attempt s holds
    rw [thrown] at failed
    exact rest (again s' error k delay failed retried)

end Triple
end Async
end CourierPlatform
