import CourierPlatform.Library.Machine

/-! Runs without an end, and what a measure that only falls says of them. -/
namespace CourierPlatform.Library

universe u v w

structure EndlessRun {S : Type u} {L : Type v} (m : Machine S L) where
  state : Nat → S
  label : Nat → L
  step : ∀ n, m.next (state n) (label n) = some (state (n + 1))

variable {S : Type u} {L : Type v} {m : Machine S L} {V : Type w} {lt : V → V → Prop}

def Machine.follow (m : Machine S L) (label : Nat → L) (s : S) : Nat → Option S
  | 0 => some s
  | n + 1 => (m.follow label s n).bind fun t => m.next t (label n)

namespace EndlessRun

def following (label : Nat → L) (s : S) (applies : ∀ n, (m.follow label s n).isSome) : EndlessRun m where
  state n := (m.follow label s n).get (applies n)
  label
  step n := by
    obtain ⟨t, here⟩ := Option.isSome_iff_exists.mp (applies n)
    have there : m.follow label s (n + 1) = m.next t (label n) := by
      rw [Machine.follow, here, Option.bind_some]
    simp only [here, there, Option.get_some, Option.some_get]

variable (run : EndlessRun m)

theorem reaches {allowed : S → L → Prop} (permitted : ∀ n, allowed (run.state n) (run.label n))
    {i j : Nat} (later : i ≤ j) : m.Reaches allowed (run.state i) (run.state j) := by
  induction later with
  | refl => exact .refl
  | @step j _ ih => exact ih.step (run.label j) (permitted j) (run.step j)

/-- Where from some point on every step but an idle one lowers a well-founded measure and no idle one
raises it, only idle steps are left in the end. -/
theorem comes_to_rest (wf : WellFounded lt) (measure : S → V) (idle : Nat → Prop) (start : Nat)
    (falls : ∀ n ≥ start, ¬ idle n → lt (measure (run.state (n + 1))) (measure (run.state n)))
    (keeps : ∀ n ≥ start, idle n → measure (run.state (n + 1)) = measure (run.state n) ∨
      lt (measure (run.state (n + 1))) (measure (run.state n))) :
    ∃ N, ∀ n ≥ N, idle n := by
  suffices rest : ∀ v k, start ≤ k → measure (run.state k) = v → ∃ N, ∀ n ≥ N, idle n from
    rest _ start (Nat.le_refl _) rfl
  intro v
  induction v using wf.induction with
  | _ v ih =>
    intro k begun here
    by_cases lower : ∃ n, k ≤ n ∧ lt (measure (run.state n)) v
    · obtain ⟨n, after, below⟩ := lower
      exact ih _ below n (Nat.le_trans begun after) rfl
    · -- the measure has reached its last value
      have notLower (n : Nat) (later : k ≤ n) : ¬ lt (measure (run.state n)) v :=
        fun below => lower ⟨n, later, below⟩
      have level : ∀ d, measure (run.state (k + d)) = v := by
        intro d
        induction d with
        | zero => exact here
        | succ d same =>
          have above := notLower (k + d + 1) (by omega)
          by_cases still : idle (k + d)
          · rcases keeps (k + d) (by omega) still with kept | below
            · exact kept.trans same
            · exact absurd (same ▸ below) above
          · exact absurd (same ▸ falls (k + d) (by omega) still) above
      refine ⟨k, fun n later => ?_⟩
      obtain ⟨d, rfl⟩ := Nat.exists_eq_add_of_le later
      by_contra moving
      have below := falls (k + d) (by omega) moving
      rw [level d] at below
      exact notLower (k + d + 1) (by omega) below

/-- Weak fairness: steps of a kind that stay possible are taken again and again. -/
def WeaklyFair (own : S → L → Prop) : Prop :=
  ∀ n, ∃ k ≥ n, own (run.state k) (run.label k) ∨
    ∀ l, own (run.state k) l → m.next (run.state k) l = none

/-- Steps that are taken fairly and that all lower a well-founded measure, which nothing else raises,
become impossible some time. -/
theorem WeaklyFair.ends {run : EndlessRun m} {own : S → L → Prop} (fair : run.WeaklyFair own)
    (wf : WellFounded lt) (measure : S → V) (start : Nat)
    (falls : ∀ n ≥ start, own (run.state n) (run.label n) →
      lt (measure (run.state (n + 1))) (measure (run.state n)))
    (keeps : ∀ n ≥ start, measure (run.state (n + 1)) = measure (run.state n) ∨
      lt (measure (run.state (n + 1))) (measure (run.state n))) :
    ∃ k ≥ start, ∀ l, own (run.state k) l → m.next (run.state k) l = none := by
  obtain ⟨N, rests⟩ := run.comes_to_rest wf measure (fun n => ¬ own (run.state n) (run.label n)) start
    (fun n begun moving => falls n begun (not_not.mp moving)) fun n begun _ => keeps n begun
  obtain ⟨k, after, taken | impossible⟩ := fair (max start N)
  · exact absurd taken (rests k (Nat.le_trans (Nat.le_max_right _ _) after))
  · exact ⟨k, Nat.le_trans (Nat.le_max_left _ _) after, impossible⟩

end EndlessRun

/-- Where every state that is not final has a step to one of lower measure, a final state is reached. -/
theorem Machine.Reaches.exists_final_of_falls {allowed : S → L → Prop} (wf : WellFounded lt)
    (measure : S → V) (Inv Final : S → Prop)
    (progress : ∀ a, Inv a → ¬ Final a →
      ∃ l b, allowed a l ∧ m.next a l = some b ∧ Inv b ∧ lt (measure b) (measure a))
    {s : S} (start : Inv s) : ∃ t, m.Reaches allowed s t ∧ Inv t ∧ Final t := by
  induction value : measure s using wf.induction generalizing s with
  | _ v ih =>
    by_cases final : Final s
    · exact ⟨s, .refl, start, final⟩
    · obtain ⟨l, b, permitted, moved, inv, below⟩ := progress s start final
      obtain ⟨t, rest, inv, final⟩ := ih (measure b) (value ▸ below) inv rfl
      exact ⟨t, (Reaches.refl.step l permitted moved).trans rest, inv, final⟩

end CourierPlatform.Library
