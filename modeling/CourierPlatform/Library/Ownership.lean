import Mathlib.Logic.Function.Basic

/-! Ownership of one resource. Each party shows what it holds of the resource, if
anything; the resource is solely owned when at most one party holds it. -/
namespace CourierPlatform.Library

universe u v

variable {ι : Type u} {α : Type v}

/-- The resource is free, or one party holds it and shows `value`. -/
def SoleOwner (shows : ι → Option α) : Option α → Prop
  | none => ∀ i, shows i = none
  | some value => ∃ i, shows i = some value ∧ ∀ j, j ≠ i → shows j = none

namespace SoleOwner

variable {shows : ι → Option α} {held : Option α} {i : ι}

theorem eq_of_holds (h : SoleOwner shows held) {value : α} (holds : shows i = some value) :
    held = some value := by
  cases held with
  | none => rw [h i] at holds; contradiction
  | some other =>
    obtain ⟨owner, here, others⟩ := h
    by_cases same : i = owner
    · rw [← here, ← same, holds]
    · rw [others i same] at holds; contradiction

theorem eq_none (h : SoleOwner shows held) (free : ∀ i, shows i = none) : held = none := by
  cases held with
  | none => rfl
  | some value =>
    obtain ⟨owner, here, -⟩ := h
    rw [free owner] at here
    contradiction

variable [DecidableEq ι]

theorem of_others (others : ∀ j, j ≠ i → shows j = none) (next : Option α) :
    SoleOwner (Function.update shows i next) next := by
  cases next with
  | none =>
    intro j
    by_cases same : j = i
    · rw [same, Function.update_self]
    · rw [Function.update_of_ne same, others j same]
  | some value =>
    refine ⟨i, Function.update_self .., fun j other => ?_⟩
    rw [Function.update_of_ne other, others j other]

theorem take (h : SoleOwner shows none) (next : Option α) :
    SoleOwner (Function.update shows i next) next :=
  of_others (fun j _ => h j) next

theorem change (h : SoleOwner shows held) {value : α} (holds : shows i = some value)
    (next : Option α) : SoleOwner (Function.update shows i next) next := by
  have mine := h.eq_of_holds holds
  subst mine
  obtain ⟨owner, here, others⟩ := h
  have same : i = owner := by
    by_contra other
    rw [others i other] at holds
    contradiction
  exact of_others (same ▸ others) next

/-- One party moves from what it shows to `next`. If it takes the resource, the resource
was free. -/
theorem step (h : SoleOwner shows held) {next : Option α}
    (taken : shows i = none → next ≠ none → held = none) :
    SoleOwner (Function.update shows i next)
      (if shows i = none ∧ next = none then held else next) := by
  cases mine : shows i with
  | some value =>
    rw [if_neg fun both => Option.some_ne_none value both.1]
    exact h.change mine next
  | none =>
    cases next with
    | none =>
      rw [if_pos ⟨rfl, rfl⟩, ← mine, Function.update_eq_self]
      exact h
    | some value =>
      rw [if_neg fun both => Option.some_ne_none value both.2]
      exact (taken mine (Option.some_ne_none value) ▸ h).take (some value)

end SoleOwner
end CourierPlatform.Library
