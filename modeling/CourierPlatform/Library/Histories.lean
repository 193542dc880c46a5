import Mathlib.Data.List.Basic

/-! Histories, with the latest event at the end, and what they say of the present: that something has
begun and has not been ended since. -/
namespace CourierPlatform.Library

universe u

variable {α : Type u} {begins ends : α → Prop} {history : List α} {last e e' : α}

/-- The event began something that no later event ended. -/
def Since (begins ends : α → Prop) (history : List α) (e : α) : Prop :=
  ∃ before after, history = before ++ e :: after ∧ begins e ∧ ∀ later ∈ after, ¬ ends later

@[simp] theorem not_since_nil : ¬ Since begins ends [] e := by
  rintro ⟨before, after, split, -⟩
  exact List.append_ne_nil_of_right_ne_nil _ (List.cons_ne_nil _ _) split.symm

theorem since_append : Since begins ends (history ++ [last]) e ↔
    begins last ∧ e = last ∨ Since begins ends history e ∧ ¬ ends last := by
  constructor
  · rintro ⟨before, after, split, here, open_⟩
    rcases List.eq_nil_or_concat after with rfl | ⟨rest, other, rfl⟩
    · obtain ⟨-, same⟩ := List.append_inj' split rfl
      cases same
      exact .inl ⟨here, rfl⟩
    · rw [List.concat_eq_append, ← List.cons_append, ← List.append_assoc] at split
      obtain ⟨rfl, same⟩ := List.append_inj' split rfl
      cases same
      refine .inr ⟨⟨before, rest, rfl, here, fun later mem => ?_⟩, ?_⟩
      · exact open_ later (by simp [mem])
      · exact open_ last (by simp)
  · rintro (⟨here, rfl⟩ | ⟨⟨before, after, rfl, here, open_⟩, unended⟩)
    · exact ⟨history, [], rfl, here, fun later mem => absurd mem List.not_mem_nil⟩
    · refine ⟨before, after ++ [last], by simp, here, fun later mem => ?_⟩
      rcases List.mem_append.mp mem with earlier | new
      · exact open_ later earlier
      · rwa [List.mem_singleton.mp new]

theorem since_append_of_not (idle : ¬ begins last) (harmless : ¬ ends last) :
    Since begins ends (history ++ [last]) e ↔ Since begins ends history e := by
  rw [since_append]
  simp [idle, harmless]

end CourierPlatform.Library
