import Mathlib.Logic.Relation

/-! What the platform promises about one order: it is claimed for one attempt at a
time, and a booking that was recorded is final. -/
namespace CourierPlatform.Spec
open Relation

inductive Phase where
  | idle | claimed | answered | booked

structure Booking where
  phase : Phase
  bookings : Nat

namespace Booking

def initial : Booking := ⟨.idle, 0⟩

/-- Where the answer of a courier need not amount to a booking, an attempt may be given
back after it. -/
inductive Step (mayReopen : Prop) : Booking → Booking → Prop where
  | claim {n} : Step mayReopen ⟨.idle, n⟩ ⟨.claimed, n⟩
  | abandon {n} : Step mayReopen ⟨.claimed, n⟩ ⟨.idle, n⟩
  | answer {n} : Step mayReopen ⟨.claimed, n⟩ ⟨.answered, n + 1⟩
  | record {n} : Step mayReopen ⟨.answered, n⟩ ⟨.booked, n⟩
  | reopen {n} (may : mayReopen) : Step mayReopen ⟨.answered, n⟩ ⟨.idle, n⟩

variable {mayReopen : Prop} {b c : Booking}

theorem booked_final (booked : b.phase = .booked) (steps : ReflTransGen (Step mayReopen) b c) :
    c = b := by
  induction steps with
  | refl => rfl
  | tail _ last ih =>
    subst ih
    cases last <;> contradiction

def Phase.bookings : Phase → Nat
  | .idle => 0
  | .claimed => 0
  | .answered => 1
  | .booked => 1

theorem bookings_eq (steps : ReflTransGen (Step False) initial b) :
    b.bookings = Phase.bookings b.phase := by
  induction steps with
  | refl => rfl
  | tail _ last ih =>
    cases last with
    | claim => exact ih
    | abandon => exact ih
    | answer => exact congrArg (· + 1) ih
    | record => exact ih
    | reopen may => exact may.elim

theorem at_most_one (steps : ReflTransGen (Step False) initial b) : b.bookings ≤ 1 := by
  rw [bookings_eq steps]
  cases b.phase <;> decide

end Booking
end CourierPlatform.Spec
