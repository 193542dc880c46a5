import Mathlib.Data.List.Basic

/-! What occurs in a text from which the separators are taken out: it lies inside a word, or it spans
the boundary of two. -/
namespace CourierPlatform.Library

universe u

variable {α : Type u} {words : List (List α)} {part word : List α}

/-- The part is a non-empty end of one word, the words in between, and a non-empty beginning of a
later word. -/
structure Straddles (part : List α) (words : List (List α)) : Prop where
  spans : ∃ before first middle last after, words = before ++ first :: (middle ++ last :: after) ∧
    ∃ left right, left ≠ [] ∧ right ≠ [] ∧ left <:+ first ∧ right <+: last ∧
      part = left ++ (middle.flatten ++ right)

theorem exists_of_prefix_flatten (filled : part ≠ []) (begins : part <+: words.flatten) :
    ∃ middle last after right, words = middle ++ last :: after ∧ right ≠ [] ∧ right <+: last ∧
      part = middle.flatten ++ right := by
  induction words generalizing part with
  | nil => exact absurd (List.prefix_nil.mp begins) filled
  | cons word words ih =>
    obtain ⟨rest, whole⟩ := begins
    rw [List.flatten_cons] at whole
    rcases List.append_eq_append_iff.mp whole with ⟨tail, inside, -⟩ | ⟨tail, beyond, remaining⟩
    · exact ⟨[], word, words, part, rfl, filled, ⟨tail, inside.symm⟩, rfl⟩
    · by_cases none : tail = []
      · subst none
        rw [List.append_nil] at beyond
        exact ⟨[], word, words, part, rfl, filled, beyond ▸ List.prefix_rfl, rfl⟩
      · obtain ⟨middle, last, after, right, split, some, here, same⟩ := ih none ⟨rest, remaining.symm⟩
        refine ⟨word :: middle, last, after, right, by rw [split]; rfl, some, here, ?_⟩
        rw [beyond, same, List.flatten_cons, List.append_assoc]

theorem Straddles.cons (straddles : Straddles part words) : Straddles part (word :: words) := by
  obtain ⟨before, first, middle, last, after, rfl, spans⟩ := straddles.spans
  exact ⟨word :: before, first, middle, last, after, rfl, spans⟩

theorem Straddles.infix_flatten (straddles : Straddles part words) : part <:+: words.flatten := by
  obtain ⟨before, first, middle, last, after, rfl, left, right, -, -, ⟨start, ends⟩, ⟨rest, begins⟩,
    rfl⟩ := straddles.spans
  refine ⟨before.flatten ++ start, rest ++ after.flatten, ?_⟩
  simp [← ends, ← begins]

/-- What occurs in the words in a row lies inside one of them, or spans a boundary. -/
theorem infix_flatten_iff (filled : part ≠ []) :
    part <:+: words.flatten ↔ (∃ word ∈ words, part <:+: word) ∨ Straddles part words := by
  constructor
  · intro occurs
    induction words with
    | nil => exact absurd (List.infix_nil.mp occurs) filled
    | cons word words ih =>
      rw [List.flatten_cons, List.infix_append_iff_ne_nil] at occurs
      rcases occurs with inside | later | ⟨left, right, some, more, whole, ends, begins⟩
      · exact .inl ⟨word, List.mem_cons_self, inside⟩
      · rcases ih later with ⟨other, mem, inside⟩ | straddles
        · exact .inl ⟨other, List.mem_cons_of_mem _ mem, inside⟩
        · exact .inr straddles.cons
      · obtain ⟨middle, last, after, tail, split, filled, inside, rfl⟩ :=
          exists_of_prefix_flatten more begins
        exact .inr ⟨[], word, middle, last, after, by rw [split]; rfl, left, tail, some, filled, ends,
          inside, whole⟩
  · rintro (⟨word, mem, inside⟩ | straddles)
    · exact inside.trans (List.infix_of_mem_flatten mem)
    · exact straddles.infix_flatten

theorem flatten_splitOnP (separator : α → Bool) (text : List α) :
    (text.splitOnP separator).flatten = text.filter fun a => !separator a := by
  induction text with
  | nil => rfl
  | cons a text ih =>
    rw [List.splitOnP_cons_eq_if_modifyHead, List.filter_cons]
    by_cases separates : separator a
    · simp [separates, ih]
    · obtain ⟨word, words, split⟩ := List.exists_cons_of_ne_nil (List.splitOnP_ne_nil separator text)
      rw [split, List.flatten_cons] at ih
      simp [separates, split, ih]

end CourierPlatform.Library
