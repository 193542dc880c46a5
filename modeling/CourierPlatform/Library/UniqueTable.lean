import Mathlib.Data.List.Basic
import Mathlib.Data.List.Nodup

/-! Tables with a unique index. The index is part of the type: a table with two
rows under one key cannot be built, so reads by key never have to choose. -/
namespace CourierPlatform.Library

universe u v

structure UniqueTable (α : Type u) {κ : Type v} (key : α → κ) where
  rows : List α
  unique : (rows.map key).Nodup

namespace UniqueTable

variable {α : Type u} {κ : Type v} [DecidableEq κ] {key : α → κ}

def empty : UniqueTable α key := ⟨[], List.nodup_nil⟩

def find? (table : UniqueTable α key) (k : κ) : Option α :=
  table.rows.find? fun row => key row = k

def insert? (table : UniqueTable α key) (row : α) : Option (UniqueTable α key) :=
  if h : key row ∈ table.rows.map key then none
  else some ⟨table.rows ++ [row], by
    rw [List.map_append, List.map_singleton, List.nodup_append]
    exact ⟨table.unique, List.nodup_singleton _, by
      intro a ha b hb
      rw [List.mem_singleton.mp hb]
      exact fun same => h (same ▸ ha)⟩⟩

def insertIgnore (table : UniqueTable α key) (row : α) : UniqueTable α key :=
  (table.insert? row).getD table

def insertAllIgnore (table : UniqueTable α key) (rows : List α) : UniqueTable α key :=
  rows.foldl insertIgnore table

def modify (table : UniqueTable α key) (k : κ) (f : α → α) (keeps : ∀ row, key (f row) = key row) :
    UniqueTable α key where
  rows := table.rows.map fun row => if key row = k then f row else row
  unique := by
    rw [List.map_map]
    have same : (key ∘ fun row => if key row = k then f row else row) = key := by
      funext row
      simp only [Function.comp_apply]
      split
      · exact keeps row
      · rfl
    rw [same]
    exact table.unique

@[simp] theorem find?_empty (k : κ) : (empty : UniqueTable α key).find? k = none := rfl

theorem key_of_find? {table : UniqueTable α key} {k : κ} {row : α}
    (h : table.find? k = some row) : key row = k := by
  simpa using List.find?_some h

theorem find?_eq_none_iff {table : UniqueTable α key} {k : κ} :
    table.find? k = none ↔ k ∉ table.rows.map key := by
  simp [find?, List.find?_eq_none]

theorem countP_key (table : UniqueTable α key) (k : κ) :
    table.rows.countP (fun row => key row = k) = (table.find? k).isSome.toNat := by
  have count : table.rows.countP (fun row => key row = k) = (table.rows.map key).count k := by
    rw [List.count, List.countP_map]
    rfl
  rw [count]
  cases found : table.find? k with
  | none => exact List.count_eq_zero_of_not_mem (find?_eq_none_iff.mp found)
  | some row =>
    have named := List.mem_map_of_mem (f := key) (List.mem_of_find?_eq_some found)
    rw [key_of_find? found] at named
    exact List.count_eq_one_of_mem table.unique named

@[simp] theorem find?_modify (table : UniqueTable α key) (k k' : κ) (f : α → α)
    (keeps : ∀ row, key (f row) = key row) :
    (table.modify k f keeps).find? k' =
      if k' = k then (table.find? k').map f else table.find? k' := by
  have through : ((fun row => decide (key row = k')) ∘
      fun row => if key row = k then f row else row) = fun row => decide (key row = k') := by
    funext row
    simp only [Function.comp_apply]
    split
    · rw [keeps]
    · rfl
  simp only [find?, modify, List.find?_map, through]
  cases found : table.rows.find? fun row => decide (key row = k') with
  | none => simp
  | some row =>
    have named : key row = k' := by simpa using List.find?_some found
    by_cases same : k' = k
    · simp [same, named]
    · simp [same, named]

theorem insert?_eq_none_iff {table : UniqueTable α key} {row : α} :
    table.insert? row = none ↔ (table.find? (key row)).isSome := by
  rw [Option.isSome_iff_ne_none, Ne, find?_eq_none_iff, not_not]
  unfold insert?
  split <;> simp_all

theorem find?_insert? {table after : UniqueTable α key} {row : α}
    (h : table.insert? row = some after) (k : κ) :
    after.find? k = if key row = k then some row else table.find? k := by
  unfold insert? at h
  split at h
  next => contradiction
  next fresh =>
    cases Option.some.inj h
    change (table.rows ++ [row]).find? (fun other => decide (key other = k)) = _
    rw [List.find?_append]
    change (table.find? k).or _ = _
    by_cases same : key row = k
    · rw [find?_eq_none_iff.mpr (same ▸ fresh)]
      simp [same]
    · simp [same]

theorem find?_of_insert? {table after : UniqueTable α key} {row : α}
    (h : table.insert? row = some after) : table.find? (key row) = none := by
  by_contra present
  rw [insert?_eq_none_iff.mpr (Option.isSome_iff_ne_none.mpr present)] at h
  contradiction

theorem find?_insertIgnore (table : UniqueTable α key) (row : α) (k : κ) :
    (table.insertIgnore row).find? k =
      (table.find? k).or (if key row = k then some row else none) := by
  unfold insertIgnore
  cases inserted : table.insert? row with
  | none =>
    have present := insert?_eq_none_iff.mp inserted
    by_cases same : key row = k
    · obtain ⟨old, hold⟩ := Option.isSome_iff_exists.mp (same ▸ present)
      simp [hold]
    · simp [same]
  | some after =>
    rw [Option.getD_some, find?_insert? inserted]
    by_cases same : key row = k
    · have absent := find?_of_insert? inserted
      simp [same, same ▸ absent]
    · simp [same]

/-- A bulk insertion keeps every row that was there and adds the first new row of each key. -/
theorem find?_insertAllIgnore (table : UniqueTable α key) (rows : List α) (k : κ) :
    (table.insertAllIgnore rows).find? k =
      (table.find? k).or (rows.find? fun row => key row = k) := by
  induction rows generalizing table with
  | nil => simp [insertAllIgnore]
  | cons row rest ih =>
    change ((table.insertIgnore row).insertAllIgnore rest).find? k = _
    rw [ih, find?_insertIgnore, Option.or_assoc]
    congr 1
    by_cases same : key row = k <;> simp [same]

/-! ## Measures over a table -/

def totalOf (measure : α → Nat) : List α → Nat
  | [] => 0
  | row :: rest => measure row + totalOf measure rest

section
variable (measure : α → Nat) {rows : List α}

theorem totalOf_append (rows : List α) (row : α) :
    totalOf measure (rows ++ [row]) = totalOf measure rows + measure row := by
  induction rows with
  | nil => exact Nat.add_comm _ _
  | cons first rest ih =>
    rw [List.cons_append, totalOf, ih, totalOf]
    omega

theorem totalOf_set {i : Nat} {row : α} (new : α) (found : rows[i]? = some row) :
    totalOf measure (rows.set i new) + measure row = totalOf measure rows + measure new := by
  induction rows generalizing i with
  | nil => contradiction
  | cons first rest ih =>
    cases i with
    | zero =>
      cases Option.some.inj found
      simp only [List.set_cons_zero, totalOf]
      omega
    | succ i =>
      have later := ih found
      simp only [List.set_cons_succ, totalOf]
      omega

theorem totalOf_mapIdx_le (rows : List α) (f : Nat → α → α) (fewer : ∀ i row, measure (f i row) ≤ measure row) :
    totalOf measure (rows.mapIdx f) ≤ totalOf measure rows := by
  induction rows generalizing f with
  | nil => exact Nat.le_refl 0
  | cons first rest ih =>
    rw [List.mapIdx_cons, totalOf, totalOf]
    exact Nat.add_le_add (fewer 0 first) (ih _ fun i row => fewer (i + 1) row)

end

def total (measure : α → Nat) (table : UniqueTable α key) : Nat := totalOf measure table.rows

section
variable {measure : α → Nat} {table : UniqueTable α key} {k : κ} {row : α}

theorem find?_of_mem (mem : row ∈ table.rows) : table.find? (key row) = some row := by
  have found : (table.find? (key row)).isSome := by
    rw [Option.isSome_iff_ne_none, Ne, find?_eq_none_iff, not_not]
    exact List.mem_map_of_mem mem
  obtain ⟨other, here⟩ := Option.isSome_iff_exists.mp found
  have same := List.inj_on_of_nodup_map table.unique (List.mem_of_find?_eq_some here) mem
    (key_of_find? here)
  rw [here, same]

theorem mem_of_find? (found : table.find? k = some row) : row ∈ table.rows :=
  List.mem_of_find?_eq_some found

theorem le_totalOf {rows : List α} (mem : row ∈ rows) : measure row ≤ totalOf measure rows := by
  induction rows with
  | nil => contradiction
  | cons first rest ih =>
    rw [totalOf]
    rcases List.mem_cons.mp mem with rfl | later
    · omega
    · have := ih later
      omega

theorem le_total (found : table.find? k = some row) : measure row ≤ table.total measure :=
  le_totalOf (mem_of_find? found)

theorem exists_of_totalOf_pos {rows : List α} (positive : 0 < totalOf measure rows) :
    ∃ row ∈ rows, 0 < measure row := by
  induction rows with
  | nil => contradiction
  | cons first rest ih =>
    by_cases here : 0 < measure first
    · exact ⟨first, List.mem_cons_self, here⟩
    · rw [totalOf] at positive
      obtain ⟨row, later, has⟩ := ih (by omega)
      exact ⟨row, List.mem_cons_of_mem _ later, has⟩

theorem total_modify {f : α → α} (keeps : ∀ row, key (f row) = key row)
    (found : table.find? k = some row) :
    (table.modify k f keeps).total measure + measure row = table.total measure + measure (f row) := by
  have named := key_of_find? found
  have mem := mem_of_find? found
  have unique := table.unique
  change totalOf measure (table.rows.map _) + _ = totalOf measure table.rows + _
  generalize table.rows = rows at mem unique
  induction rows with
  | nil => contradiction
  | cons first rest ih =>
    rw [List.map_cons, List.nodup_cons] at unique
    rw [List.map_cons, totalOf, totalOf]
    rcases List.mem_cons.mp mem with rfl | later
    · have others : rest.map (fun other => if key other = k then f other else other) = rest := by
        nth_rewrite 2 [← List.map_id rest]
        apply List.map_congr_left
        intro other later
        apply if_neg
        intro same
        exact unique.1 (named.trans same.symm ▸ List.mem_map_of_mem later)
      rw [others, if_pos named]
      omega
    · have apart : key first ≠ k := by
        intro same
        exact unique.1 (same.trans named.symm ▸ List.mem_map_of_mem later)
      have := ih later unique.2
      rw [if_neg apart]
      omega

end
end UniqueTable
end CourierPlatform.Library
