import Mathlib.Data.List.Basic

/-! Tables that only grow. A row is appended if no row with its key is there; the table itself may hold
several rows of one key. -/
namespace CourierPlatform.Library

universe u v

variable {α : Type u} {κ : Type v} [DecidableEq κ]

def insertNew (key : α → κ) (table : List α) (row : α) : List α :=
  if key row ∈ table.map key then table else table ++ [row]

def insertAllNew (key : α → κ) (table rows : List α) : List α := rows.foldl (insertNew key) table

/-- The rows of a list that are added where these keys are known: the first of each new key. -/
structure Firsts (key : α → κ) (known : List κ) (rows added : List α) : Prop where
  sublist : added.Sublist rows
  once : (added.map key).Nodup
  keys : ∀ k, k ∈ added.map key ↔ k ∈ rows.map key ∧ k ∉ known
  first : ∀ row ∈ added, ∃ before rest, rows = before ++ row :: rest ∧ key row ∉ before.map key

section
variable {key : α → κ} {table rows : List α} {row other : α} {k : κ}

theorem insertAllNew_cons :
    insertAllNew key table (row :: rows) = insertAllNew key (insertNew key table row) rows := rfl

theorem mem_insertNew :
    other ∈ insertNew key table row ↔ other ∈ table ∨ other = row ∧ key row ∉ table.map key := by
  unfold insertNew
  split
  next present => simp [present]
  next absent => simp [absent]

theorem mem_keys_insertNew :
    k ∈ (insertNew key table row).map key ↔ k ∈ table.map key ∨ k = key row := by
  unfold insertNew
  split
  next present =>
    constructor
    · exact Or.inl
    · rintro (there | rfl)
      · exact there
      · exact present
  next => rw [List.map_append, List.mem_append, List.map_singleton, List.mem_singleton]

theorem mem_keys_insertAllNew :
    k ∈ (insertAllNew key table rows).map key ↔ k ∈ table.map key ∨ k ∈ rows.map key := by
  induction rows generalizing table with
  | nil => simp [insertAllNew]
  | cons first rest ih =>
    rw [insertAllNew_cons, ih, mem_keys_insertNew, List.map_cons, List.mem_cons, or_assoc]

theorem insertAllNew_of_known (known : ∀ row ∈ rows, key row ∈ table.map key) :
    insertAllNew key table rows = table := by
  induction rows with
  | nil => rfl
  | cons first rest ih =>
    rw [insertAllNew_cons, insertNew, if_pos (known first List.mem_cons_self)]
    apply ih
    intro row later
    exact known row (List.mem_cons_of_mem _ later)

theorem insertAllNew_append {later : List α} :
    insertAllNew key table (rows ++ later) = insertAllNew key (insertAllNew key table rows) later :=
  List.foldl_append

theorem insertAllNew_append_of_known {later : List α} (known : ∀ row ∈ rows, key row ∈ table.map key) :
    insertAllNew key table (rows ++ later) = insertAllNew key table later := by
  rw [insertAllNew_append, insertAllNew_of_known known]

omit [DecidableEq κ] in
theorem Firsts.nil (known : List κ) : Firsts key known [] [] where
  sublist := .slnil
  once := List.nodup_nil
  keys k := by simp
  first row mem := absurd mem List.not_mem_nil

omit [DecidableEq κ] in
theorem Firsts.known {known : List κ} {added : List α} (h : Firsts key known rows added)
    (there : key row ∈ known) : Firsts key known (row :: rows) added where
  sublist := h.sublist.cons row
  once := h.once
  keys k := by
    rw [h.keys, List.map_cons, List.mem_cons]
    constructor
    · rintro ⟨mem, new⟩
      exact ⟨.inr mem, new⟩
    · rintro ⟨rfl | mem, new⟩
      · exact absurd there new
      · exact ⟨mem, new⟩
  first new mem := by
    obtain ⟨before, rest, rfl, apart⟩ := h.first new mem
    refine ⟨row :: before, rest, rfl, ?_⟩
    rw [List.map_cons, List.mem_cons, not_or]
    refine ⟨fun same => ?_, apart⟩
    have fresh := ((h.keys _).mp (List.mem_map_of_mem mem)).2
    exact fresh (same ▸ there)

theorem Firsts.new {known : List κ} {added : List α} (h : Firsts key (known ++ [key row]) rows added)
    (absent : key row ∉ known) : Firsts key known (row :: rows) (row :: added) where
  sublist := h.sublist.cons_cons row
  once := by
    rw [List.map_cons, List.nodup_cons]
    refine ⟨fun again => ?_, h.once⟩
    exact ((h.keys _).mp again).2 (List.mem_append_right _ (List.mem_singleton_self _))
  keys k := by
    rw [List.map_cons, List.mem_cons, h.keys, List.map_cons, List.mem_cons, List.mem_append,
      List.mem_singleton, not_or]
    constructor
    · rintro (rfl | ⟨mem, fresh, -⟩)
      · exact ⟨.inl rfl, absent⟩
      · exact ⟨.inr mem, fresh⟩
    · rintro ⟨rfl | mem, fresh⟩
      · exact .inl rfl
      · by_cases same : k = key row
        · exact .inl same
        · exact .inr ⟨mem, fresh, same⟩
  first new mem := by
    rcases List.mem_cons.mp mem with rfl | later
    · exact ⟨[], rows, rfl, List.not_mem_nil⟩
    · obtain ⟨before, rest, rfl, apart⟩ := h.first new later
      refine ⟨row :: before, rest, rfl, ?_⟩
      rw [List.map_cons, List.mem_cons, not_or]
      refine ⟨fun same => ?_, apart⟩
      have fresh := ((h.keys _).mp (List.mem_map_of_mem later)).2
      exact fresh (List.mem_append_right _ (List.mem_singleton.mpr same))

theorem exists_firsts (key : α → κ) (table rows : List α) :
    ∃ added, insertAllNew key table rows = table ++ added ∧ Firsts key (table.map key) rows added := by
  induction rows generalizing table with
  | nil => exact ⟨[], (List.append_nil _).symm, .nil _⟩
  | cons first rest ih =>
    rw [insertAllNew_cons, insertNew]
    split
    next there =>
      obtain ⟨added, same, firsts⟩ := ih table
      exact ⟨added, same, firsts.known there⟩
    next absent =>
      obtain ⟨added, same, firsts⟩ := ih (table ++ [first])
      rw [List.map_append, List.map_singleton] at firsts
      refine ⟨first :: added, ?_, firsts.new absent⟩
      rw [same, List.append_assoc, List.singleton_append]

theorem mem_insertAllNew :
    other ∈ insertAllNew key table rows ↔ other ∈ table ∨ ∃ before rest,
      rows = before ++ other :: rest ∧ key other ∉ table.map key ∧ key other ∉ before.map key := by
  induction rows generalizing table with
  | nil => simp [insertAllNew]
  | cons first rest ih =>
    rw [insertAllNew_cons, ih, mem_insertNew]
    constructor
    · rintro ((there | ⟨rfl, new⟩) | ⟨before, after, rfl, new, first'⟩)
      · exact .inl there
      · exact .inr ⟨[], rest, rfl, new, List.not_mem_nil⟩
      · rw [mem_keys_insertNew, not_or] at new
        refine .inr ⟨first :: before, after, rfl, new.1, ?_⟩
        rw [List.map_cons, List.mem_cons, not_or]
        exact ⟨new.2, first'⟩
    · rintro (there | ⟨_ | ⟨head, before⟩, after, same, new, first'⟩)
      · exact .inl (.inl there)
      · cases same
        exact .inl (.inr ⟨rfl, new⟩)
      · cases same
        rw [List.map_cons, List.mem_cons, not_or] at first'
        refine .inr ⟨before, after, rfl, ?_, first'.2⟩
        rw [mem_keys_insertNew, not_or]
        exact ⟨new, first'.1⟩

end
end CourierPlatform.Library
