import Mathlib.Data.List.Basic
import Mathlib.Logic.Relation

/-! Deterministic labelled machines. Every choice of the environment is part
of the label, so a script of labels has one outcome and can be evaluated, while
the reachability rules below quantify over all scripts. -/
namespace CourierPlatform.Library

universe u v w x

structure Machine (S : Type u) (L : Type v) where
  next : S → L → Option S

namespace Machine

variable {S : Type u} {L : Type v} (m : Machine S L)

/-- The states reached by steps whose label is allowed in the state before it. -/
inductive Reaches (allowed : S → L → Prop) (start : S) : S → Prop where
  | refl : Reaches allowed start start
  | step {s t : S} (l : L) : Reaches allowed start s → allowed s l → m.next s l = some t →
      Reaches allowed start t

def run (allowed : S → L → Prop) [∀ s l, Decidable (allowed s l)] : S → List L → Option S
  | s, [] => some s
  | s, l :: rest => if allowed s l then (m.next s l).bind fun t => run allowed t rest else none

variable {m} {allowed stricter : S → L → Prop} {s t r : S} {script : List L}

theorem Reaches.trans (first : m.Reaches allowed s t) (second : m.Reaches allowed t r) :
    m.Reaches allowed s r := by
  induction second with
  | refl => exact first
  | step l _ permitted moved ih => exact ih.step l permitted moved

theorem Reaches.mono (reach : m.Reaches stricter s t) (h : ∀ s l, stricter s l → allowed s l) :
    m.Reaches allowed s t := by
  induction reach with
  | refl => exact .refl
  | step l _ permitted moved ih => exact ih.step l (h _ _ permitted) moved

theorem Reaches.of_run [∀ s l, Decidable (allowed s l)] (script : List L)
    (h : m.run allowed s script = some t) : m.Reaches allowed s t := by
  induction script generalizing s with
  | nil =>
    cases Option.some.inj h
    exact .refl
  | cons l rest ih =>
    rw [run] at h
    split at h
    next permitted =>
      obtain ⟨middle, moved, tail⟩ := Option.bind_eq_some_iff.mp h
      exact (Reaches.refl.step l permitted moved).trans (ih tail)
    next => contradiction

theorem Reaches.of_run_any (m : Machine S L) (allowed : S → L → Prop)
    [∀ s l, Decidable (allowed s l)] (s : S) (script : List L) (test : S → Bool)
    (h : (m.run allowed s script).any test = true) :
    ∃ t, m.Reaches allowed s t ∧ test t = true := by
  obtain ⟨t, ran, passed⟩ := (Option.any_eq_true _ _).mp h
  exact ⟨t, .of_run script ran, passed⟩

/-- The invariant rule: what holds at the start and is kept by every allowed step
holds in every reached state. -/
theorem Reaches.invariant (Inv : S → Prop) (start : Inv s)
    (kept : ∀ a l b, Inv a → allowed a l → m.next a l = some b → Inv b)
    (reach : m.Reaches allowed s t) : Inv t := by
  induction reach with
  | refl => exact start
  | step l _ permitted moved ih => exact kept _ l _ ih permitted moved

theorem Reaches.guarded_or (guard : S → L → Prop) (reach : m.Reaches allowed s t) :
    m.Reaches (fun a l => allowed a l ∧ guard a l) s t ∨
      ∃ a l b, m.Reaches (fun a l => allowed a l ∧ guard a l) s a ∧ allowed a l ∧ ¬ guard a l ∧
        m.next a l = some b ∧ m.Reaches allowed b t := by
  induction reach with
  | refl => exact .inl .refl
  | @step a b l _ permitted moved ih =>
    rcases ih with kept | ⟨c, k, d, earlier, permitted', broken, moved', rest⟩
    · by_cases guarded : guard a l
      · exact .inl (kept.step l ⟨permitted, guarded⟩ moved)
      · exact .inr ⟨a, l, b, kept, permitted, guarded, moved, .refl⟩
    · exact .inr ⟨c, k, d, earlier, permitted', broken, moved', rest.step l permitted moved⟩

/-- Where every state that is not final leads on to one of a lower rank, a final state is reached. -/
theorem Reaches.exists_final (rank : S → Nat) (Inv Final : S → Prop)
    (progress : ∀ a, Inv a → ¬ Final a → ∃ b, m.Reaches allowed a b ∧ Inv b ∧ rank b < rank a)
    (start : Inv s) : ∃ t, m.Reaches allowed s t ∧ Inv t ∧ Final t := by
  induction size : rank s using Nat.strongRecOn generalizing s with
  | ind size ih =>
    by_cases final : Final s
    · exact ⟨s, .refl, start, final⟩
    · obtain ⟨b, first, inv, fewer⟩ := progress s start final
      obtain ⟨t, rest, inv, final⟩ := ih (rank b) (size ▸ fewer) inv rfl
      exact ⟨t, first.trans rest, inv, final⟩

/-- A view of the states whose every step is one of another machine, or none. -/
theorem Reaches.view {S' : Type w} {L' : Type x} {m' : Machine S' L'} {allowed' : S' → L' → Prop}
    (view : S → S')
    (follows : ∀ a l b, m.Reaches allowed s a → allowed a l → m.next a l = some b →
      view b = view a ∨ ∃ l', allowed' (view a) l' ∧ m'.next (view a) l' = some (view b))
    (reach : m.Reaches allowed s t) : m'.Reaches allowed' (view s) (view t) := by
  induction reach with
  | refl => exact .refl
  | step l earlier permitted moved ih =>
    rcases follows _ l _ earlier permitted moved with same | ⟨l', here, stepped⟩
    · rw [same]
      exact ih
    · exact ih.step l' here stepped

theorem run_map {S' : Type w} {L' : Type x} {m' : Machine S' L'} (view : S → S') (relabel : L → L')
    (commutes : ∀ s l, l ∈ script → (m.next s l).map view = m'.next (view s) (relabel l)) :
    (m.run (fun _ _ => True) s script).map view =
      m'.run (fun _ _ => True) (view s) (script.map relabel) := by
  induction script generalizing s with
  | nil => rfl
  | cons l rest ih =>
    have first := commutes s l List.mem_cons_self
    have later := fun s k mem => commutes s k (List.mem_cons_of_mem l mem)
    simp only [run, if_true, List.map_cons, ← first]
    cases moved : m.next s l with
    | none => rfl
    | some t => exact ih later

/-- Where every step is matched by a run of another machine, every run is. -/
theorem Reaches.simulated {S' : Type w} {L' : Type x} {m' : Machine S' L'} {allowed' : S' → L' → Prop}
    {s' : S'} (related : S → S' → Prop)
    (follows : ∀ a l b a', related a a' → allowed a l → m.next a l = some b →
      ∃ b', m'.Reaches allowed' a' b' ∧ related b b')
    (start : related s s') (reach : m.Reaches allowed s t) :
    ∃ t', m'.Reaches allowed' s' t' ∧ related t t' := by
  induction reach with
  | refl => exact ⟨s', .refl, start⟩
  | step l _ permitted moved ih =>
    obtain ⟨a', earlier, here⟩ := ih
    obtain ⟨b', steps, there⟩ := follows _ l _ a' here permitted moved
    exact ⟨b', earlier.trans steps, there⟩

/-- The machine beside an observer that takes notes of its steps. The notes are no part of
the labels and decide nothing. -/
def observed {G : Type w} (m : Machine S L) (note : S → L → S → G → G) : Machine (S × G) L where
  next s l := (m.next s.1 l).map fun t => (t, note s.1 l t s.2)

section
variable {G : Type w} {note : S → L → S → G → G} {g g' : G}

theorem Reaches.observed_invariant (Inv : S → G → Prop) (start : Inv s g)
    (kept : ∀ a l b g, Inv a g → allowed a l → m.next a l = some b → Inv b (note a l b g))
    (reach : (m.observed note).Reaches (fun s => allowed s.1) (s, g) (t, g')) : Inv t g' := by
  refine reach.invariant (fun s => Inv s.1 s.2) start ?_
  rintro ⟨a, g⟩ l ⟨b, h⟩ inv permitted moved
  obtain ⟨b, stepped, same⟩ := Option.map_eq_some_iff.mp moved
  cases same
  exact kept a l b g inv permitted stepped

end

/-- A relation from the abstract model to the machine that every allowed step can
follow: abstractly the step is one abstract step or none. -/
structure Simulation {A : Type w} (m : Machine S L) (allowed : S → L → Prop)
    (spec : A → A → Prop) where
  related : S → A → Prop
  follows : ∀ s l t a, related s a → allowed s l → m.next s l = some t →
    ∃ b, Relation.ReflGen spec a b ∧ related t b

theorem Simulation.reaches {A : Type w} {spec : A → A → Prop} (sim : Simulation m allowed spec)
    {a : A} (start : sim.related s a) (reach : m.Reaches allowed s t) :
    ∃ b, Relation.ReflTransGen spec a b ∧ sim.related t b := by
  induction reach with
  | refl => exact ⟨a, .refl, start⟩
  | step l _ permitted moved ih =>
    obtain ⟨b, earlier, here⟩ := ih
    obtain ⟨c, last, there⟩ := sim.follows _ l _ b here permitted moved
    exact ⟨c, earlier.trans last.to_reflTransGen, there⟩

end Machine
end CourierPlatform.Library
