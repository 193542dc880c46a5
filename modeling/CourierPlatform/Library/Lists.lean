import Mathlib.Data.Int.Basic
import Mathlib.Data.List.Basic
import Mathlib.Data.List.Forall2

/-! Lists under the changes a table of calls goes through, and `Option`-valued maps over them. -/
namespace CourierPlatform.Library

universe u v w

variable {α : Type u} {β : Type v}

theorem getElem?_concat_cases {list : List α} {last found : α} {j : Nat}
    (h : (list ++ [last])[j]? = some found) :
    list[j]? = some found ∨ j = list.length ∧ found = last := by
  rcases Nat.lt_trichotomy j list.length with inside | rfl | beyond
  · rw [List.getElem?_append_left inside] at h
    exact .inl h
  · rw [List.getElem?_concat_length] at h
    exact .inr ⟨rfl, (Option.some.inj h).symm⟩
  · rw [List.getElem?_eq_none (by rw [List.length_append, List.length_singleton]; exact beyond)] at h
    contradiction

theorem getElem?_append_of_some {list rest : List α} {found : α} {i : Nat}
    (here : list[i]? = some found) : (list ++ rest)[i]? = some found :=
  (List.getElem?_append_left (List.getElem?_eq_some_iff.mp here).1).trans here

theorem getElem?_set_of_some {list : List α} {old new : α} {i : Nat} (here : list[i]? = some old) :
    (list.set i new)[i]? = some new :=
  List.getElem?_set_self (List.getElem?_eq_some_iff.mp here).1

theorem getElem?_set_cases {list : List α} {last found : α} {i j : Nat}
    (h : (list.set i last)[j]? = some found) :
    j ≠ i ∧ list[j]? = some found ∨ j = i ∧ found = last := by
  by_cases same : j = i
  · subst same
    rw [List.getElem?_set_self'] at h
    cases here : list[j]? with
    | none => simp [here] at h
    | some before => exact .inr ⟨rfl, by simpa [here, eq_comm] using h⟩
  · rw [List.getElem?_set_ne (Ne.symm same)] at h
    exact .inl ⟨same, h⟩

theorem exists_after (instants : List Int) (now : Int) :
    ∃ ms : Nat, ∀ instant ∈ instants, instant < now + ms := by
  induction instants with
  | nil => exact ⟨0, fun _ mem => absurd mem List.not_mem_nil⟩
  | cons first rest ih =>
    obtain ⟨ms, past⟩ := ih
    refine ⟨ms + (first - now + 1).toNat, fun instant mem => ?_⟩
    rcases List.mem_cons.mp mem with rfl | later
    · omega
    · have := past instant later
      omega

theorem findSome?_of_unique {f : α → Option β} {list : List α} {i : Nat} {a : α}
    (here : list[i]? = some a) (others : ∀ j b, list[j]? = some b → j ≠ i → f b = none) :
    list.findSome? f = f a := by
  induction list generalizing i with
  | nil => contradiction
  | cons first rest ih =>
    cases i with
    | zero =>
      cases Option.some.inj here
      rw [List.findSome?_cons]
      cases f a with
      | some result => rfl
      | none =>
        refine List.findSome?_eq_none_iff.mpr fun b mem => ?_
        obtain ⟨j, found⟩ := List.getElem?_of_mem mem
        exact others (j + 1) b found (Nat.succ_ne_zero j)
    | succ i =>
      rw [List.findSome?_cons, others 0 first rfl (Nat.succ_ne_zero i).symm]
      exact ih here fun j b found other => others (j + 1) b found (by omega)

theorem mapM_option {f : α → Option β} {list : List α} {results : List β} :
    list.mapM f = some results ↔
      results.length = list.length ∧
        ∀ (k : Nat) (a : α), list[k]? = some a → results[k]? = f a := by
  induction list generalizing results with
  | nil => cases results <;> simp
  | cons first rest ih =>
    simp only [List.mapM_cons, bind, Option.bind_eq_some_iff, pure, Option.some.injEq]
    constructor
    · rintro ⟨result, answer, others, collected, rfl⟩
      obtain ⟨length, each⟩ := ih.mp collected
      refine ⟨congrArg (· + 1) length, fun k a found => ?_⟩
      cases k with
      | zero => cases found; exact answer.symm
      | succ k => exact each k a found
    · rintro ⟨length, each⟩
      cases results with
      | nil => contradiction
      | cons result others =>
        refine ⟨result, (each 0 first rfl).symm, others, ih.mpr ⟨?_, fun k a found => ?_⟩, rfl⟩
        · exact Nat.succ.inj length
        · exact each (k + 1) a found

theorem mapM_isSome {f : α → Option β} {list : List α}
    (all : ∀ a ∈ list, (f a).isSome) : ∃ results, list.mapM f = some results := by
  induction list with
  | nil => exact ⟨[], rfl⟩
  | cons first rest ih =>
    obtain ⟨result, answer⟩ := Option.isSome_iff_exists.mp (all first List.mem_cons_self)
    obtain ⟨results, collected⟩ := ih fun a mem => all a (List.mem_cons_of_mem _ mem)
    exact ⟨result :: results, by simp [answer, collected]⟩

theorem perm_of_filter [DecidableEq α] [DecidableEq β] (key : α → β)
    {left right : List α}
    (same : ∀ x, left.filter (key · = x) = right.filter (key · = x)) : left.Perm right := by
  refine List.perm_iff_count.mpr fun a => ?_
  have own : decide (key a = key a) = true := decide_eq_true rfl
  rw [← List.count_filter (p := fun b => key b = key a) own, same,
    List.count_filter (p := fun b => key b = key a) own]

theorem countP_set_add {p : α → Bool} {list : List α} {i : Nat} {old : α} (new : α)
    (found : list[i]? = some old) :
    (list.set i new).countP p + (p old).toNat = list.countP p + (p new).toNat := by
  induction list generalizing i with
  | nil => contradiction
  | cons first rest ih =>
    cases i with
    | zero =>
      cases Option.some.inj found
      simp only [List.set_cons_zero, List.countP_cons]
      cases p old <;> cases p new <;> simp
    | succ i =>
      have later := ih found
      simp only [List.set_cons_succ, List.countP_cons]
      omega

theorem countP_eq_of_getElem? {p : α → Bool} {q : β → Bool} {left : List α} {right : List β}
    (length : left.length = right.length)
    (same : ∀ (k : Nat) (a : α) (b : β), left[k]? = some a → right[k]? = some b → p a = q b) :
    left.countP p = right.countP q := by
  induction left generalizing right with
  | nil => simp [List.eq_nil_of_length_eq_zero length.symm]
  | cons a rest ih =>
    cases right with
    | nil => contradiction
    | cons b others =>
      rw [List.countP_cons, List.countP_cons, same 0 a b rfl rfl,
        ih (Nat.succ.inj length) fun k => same (k + 1)]

theorem eq_of_countP_one {p : α → Bool} {list : List α} {a b : α} (once : list.countP p = 1)
    (here : a ∈ list) (there : b ∈ list) (first : p a = true) (second : p b = true) : a = b := by
  rw [List.countP_eq_length_filter] at once
  obtain ⟨only, filtered⟩ := List.length_eq_one_iff.mp once
  have same (c : α) (mem : c ∈ list) (counted : p c = true) : c = only := by
    rw [← List.mem_singleton, ← filtered]
    exact List.mem_filter.mpr ⟨mem, counted⟩
  rw [same a here first, same b there second]

theorem any_set_of_not {p : α → Bool} {list : List α} {i : Nat} {old new : α}
    (found : list[i]? = some old) (fails : p old = false) (holding : list.any p = true) :
    (list.set i new).any p = true := by
  obtain ⟨a, mem, holds⟩ := List.any_eq_true.mp holding
  obtain ⟨j, there⟩ := List.getElem?_of_mem mem
  have other : i ≠ j := by
    rintro rfl
    cases found.symm.trans there
    rw [fails] at holds
    contradiction
  have stays : (list.set i new)[j]? = some a := by rwa [List.getElem?_set_ne other]
  exact List.any_eq_true.mpr ⟨a, List.mem_of_getElem? stays, holds⟩

theorem eq_singleton_of_length_le_one {list : List α} {a : α} {i : Nat} (one : list.length ≤ 1)
    (here : list[i]? = some a) : list = [a] ∧ i = 0 := by
  have inside := (List.getElem?_eq_some_iff.mp here).1
  obtain rfl : i = 0 := by omega
  obtain ⟨other, alone⟩ := List.length_eq_one_iff.mp (show list.length = 1 by omega)
  rw [alone] at here ⊢
  exact ⟨by rw [Option.some.inj here], rfl⟩

/-! ## The elements that pass a test -/

section
variable {p : α → Bool} {list : List α} {old new : α} {j k : Nat}

/-- An element that passes the test is found again where as many others pass it before. -/
theorem getElem?_filter_of_getElem? (found : list[k]? = some old) (passes : p old = true) :
    (list.filter p)[(list.take k).countP p]? = some old := by
  induction list generalizing k with
  | nil => contradiction
  | cons first rest ih =>
    cases k with
    | zero =>
      cases found
      rw [List.filter_cons_of_pos passes]
      rfl
    | succ k =>
      have later := ih found
      rw [List.take_succ_cons, List.filter_cons, List.countP_cons]
      split
      next counted => simpa [counted] using later
      next other => simpa [other] using later

theorem countP_take_lt (found : list[j]? = some old) (passes : p old = true) (before : j < k) :
    (list.take j).countP p < (list.take k).countP p := by
  have more : list.take (j + 1) = list.take j ++ [old] := by
    rw [List.take_add_one, found]
    rfl
  have most : (list.take (j + 1)).countP p ≤ (list.take k).countP p :=
    (List.take_sublist_take_left before).countP_le
  rw [more, List.countP_append, List.countP_singleton, passes] at most
  exact most

theorem countP_take_set (found : list[k]? = some old) (same : p new = p old) (j : Nat) :
    ((list.set k new).take j).countP p = (list.take j).countP p := by
  induction list generalizing j k with
  | nil => contradiction
  | cons first rest ih =>
    cases j with
    | zero => rfl
    | succ j =>
      cases k with
      | zero =>
        cases found
        simp [List.countP_cons, same]
      | succ k => simp [List.countP_cons, ih found j]

theorem filter_set_of_pos (found : list[k]? = some old) (before : p old = true) (after : p new = true) :
    (list.set k new).filter p = (list.filter p).set ((list.take k).countP p) new := by
  induction list generalizing k with
  | nil => contradiction
  | cons first rest ih =>
    cases k with
    | zero =>
      cases found
      simp [before, after]
    | succ k =>
      have later := ih found
      rw [List.set_cons_succ, List.take_succ_cons, List.filter_cons, List.filter_cons,
        List.countP_cons, later]
      split <;> simp

theorem filter_set_of_neg (found : list[k]? = some old) (before : p old = false)
    (after : p new = false) : (list.set k new).filter p = list.filter p := by
  induction list generalizing k with
  | nil => contradiction
  | cons first rest ih =>
    cases k with
    | zero =>
      cases found
      simp [before, after]
    | succ k =>
      rw [List.set_cons_succ, List.filter_cons, List.filter_cons, ih found]

end

theorem idxOf_find? {γ : Type w} [DecidableEq α] {table : List (α × γ)} {last : α}
    (distinct : (table.map Prod.fst ++ [last]).Nodup) (p : α × γ → Bool) :
    (table.map Prod.fst ++ [last]).idxOf (((table.find? p).map Prod.fst).getD last) =
      table.findIdx p := by
  induction table with
  | nil => simp
  | cons entry rest ih =>
    obtain ⟨fresh, distinct⟩ := List.nodup_cons.mp distinct
    rw [List.map_cons, List.cons_append, List.findIdx_cons, List.find?_cons]
    cases p entry with
    | true => simp
    | false =>
      have later : ((rest.find? p).map Prod.fst).getD last ∈ rest.map Prod.fst ++ [last] := by
        cases found : rest.find? p with
        | none => simp
        | some other =>
          exact List.mem_append_left _ (List.mem_map_of_mem (List.mem_of_find?_eq_some found))
      have other : entry.1 ≠ ((rest.find? p).map Prod.fst).getD last := fun same =>
        fresh (same ▸ later)
      rw [List.idxOf_cons_ne _ other, ih distinct]
      rfl

theorem mapM_ok_iff {ε : Type v} {f : α → Except ε β} {list : List α} {results : List β} :
    list.mapM f = .ok results ↔ List.Forall₂ (fun a b => f a = .ok b) list results := by
  induction list generalizing results with
  | nil =>
    rw [List.forall₂_nil_left_iff]
    exact ⟨fun same => (Except.ok.inj same).symm, fun same => same ▸ rfl⟩
  | cons first rest ih =>
    rw [List.mapM_cons, List.forall₂_cons_left_iff]
    cases answer : f first with
    | error e => simp [bind, Except.bind]
    | ok result =>
      cases collected : rest.mapM f with
      | error e => simp [← ih, collected, bind, Except.bind]
      | ok others => simp [← ih, collected, bind, Except.bind, pure, Except.pure, eq_comm]

theorem mem_takeWhile_range' {p : Nat → Bool} {start length i : Nat} :
    i ∈ (List.range' start length).takeWhile p ↔
      start ≤ i ∧ i < start + length ∧ ∀ j, start ≤ j → j ≤ i → p j = true := by
  induction length generalizing start with
  | zero => simp; omega
  | succ length ih =>
    rw [List.range'_succ, List.takeWhile_cons]
    cases here : p start with
    | false =>
      refine iff_of_false (by simp) ?_
      rintro ⟨above, -, all⟩
      have holds := all start (Nat.le_refl start) above
      rw [here] at holds
      contradiction
    | true =>
      rw [if_pos rfl, List.mem_cons, ih]
      constructor
      · rintro (rfl | ⟨above, below, all⟩)
        · refine ⟨Nat.le_refl i, by omega, fun j low high => ?_⟩
          rw [Nat.le_antisymm high low, here]
        · refine ⟨by omega, by omega, fun j low high => ?_⟩
          rcases Nat.eq_or_lt_of_le low with rfl | later
          · exact here
          · exact all j later high
      · rintro ⟨above, below, all⟩
        rcases Nat.eq_or_lt_of_le above with rfl | later
        · exact .inl rfl
        · exact .inr ⟨later, by omega, fun j low high => all j (by omega) high⟩

end CourierPlatform.Library
