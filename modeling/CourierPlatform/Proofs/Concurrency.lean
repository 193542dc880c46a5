import CourierPlatform.Library.Lists
import CourierPlatform.Model.Concurrency

/-! The pool of `runWithConcurrency` over all orders in which the calls of `worker` fulfil. Every index
below the counter is awaited by one runner or has been fulfilled once; a runner that has ended has seen
the counter at its end. -/
namespace CourierPlatform
open Library

def PoolLabel.fulfils {R ε : Type} : PoolLabel R ε → Bool
  | fulfil .. => true
  | reject .. => false

namespace WorkerPool

variable {T R ε : Type}

def noteFulfilled (s : WorkerPool T R ε) (l : PoolLabel R ε) (_ : WorkerPool T R ε)
    (fulfilled : List (Nat × R)) : List (Nat × R) :=
  match l with
  | .fulfil k value =>
    match s.pool[k]? with
    | some (.awaiting index) => fulfilled ++ [(index, value)]
    | _ => fulfilled
  | _ => fulfilled

/-- What a pool is for: `worker` is called once for each index, in order and never too often at a time;
while an index is unfinished a call is pending; and the results are the values of the calls. -/
structure Correct (items : List T) (limit : Int) (s : WorkerPool T R ε)
    (fulfilled : List (Nat × R)) : Prop where
  once : s.calls <+: items.zipIdx
  bounded : (s.pending : Int) ≤ max 1 (min limit items.length)
  live : ∀ i < items.length, i ∉ fulfilled.map Prod.fst → 0 < s.pending
  resolves : s.pending = 0 → ∃ results, s.settled = some (.ok results)
  placed : ∀ results, s.settled = some (.ok results) →
    s.calls = items.zipIdx ∧ results.length = items.length ∧
      ∀ i < items.length, ∃ value, fulfilled.filter (·.1 = i) = [(i, value)] ∧
        results[i]? = some (some value)
  unrejected : ∀ error, s.settled ≠ some (.error error)

structure Running (items : List T) (s : WorkerPool T R ε) (fulfilled : List (Nat × R)) : Prop where
  index : s.currentIndex ≤ items.length
  calls : s.calls = items.zipIdx.take s.currentIndex
  length : s.results.length = items.length
  runners : ∀ runner ∈ s.pool,
    runner.isPending = true ∨ runner = .fulfilled ∧ s.currentIndex = items.length
  counts : ∀ i, s.pool.countP (Runner.awaits i) + fulfilled.countP (·.1 = i) =
    if i < s.currentIndex then 1 else 0
  placed : ∀ i value, (i, value) ∈ fulfilled → s.results[i]? = some (some value)

variable {items : List T} {s t : WorkerPool T R ε} {fulfilled : List (Nat × R)} {k index : Nat}
  {value : R}

theorem takeNext_cases (items : List T) (s : WorkerPool T R ε) :
    (∃ item, items[s.currentIndex]? = some item ∧ s.takeNext items =
      ({ s with currentIndex := s.currentIndex + 1, calls := s.calls ++ [(item, s.currentIndex)] },
        .awaiting s.currentIndex)) ∨
    items.length ≤ s.currentIndex ∧ s.takeNext items = (s, .fulfilled) := by
  unfold takeNext
  cases found : items[s.currentIndex]? with
  | some item => exact .inl ⟨item, rfl, rfl⟩
  | none => exact .inr ⟨List.getElem?_eq_none_iff.mp found, rfl⟩

theorem calls_takeNext {item : T} (calls : s.calls = items.zipIdx.take s.currentIndex)
    (found : items[s.currentIndex]? = some item) :
    s.calls ++ [(item, s.currentIndex)] = items.zipIdx.take (s.currentIndex + 1) := by
  have here : items.zipIdx[s.currentIndex]? = some (item, s.currentIndex) := by
    rw [List.getElem?_zipIdx, found, Nat.zero_add]
    rfl
  rw [calls, List.take_add_one, here]
  rfl

theorem Running.of_takeNext {pool : List (Runner ε)} (index : s.currentIndex ≤ items.length)
    (calls : s.calls = items.zipIdx.take s.currentIndex) (length : s.results.length = items.length)
    (runners : ∀ runner ∈ s.pool,
      runner.isPending = true ∨ runner = .fulfilled ∧ s.currentIndex = items.length)
    (members : ∀ runner ∈ pool, runner ∈ s.pool ∨ runner = (s.takeNext items).2)
    (counts : ∀ i, pool.countP (Runner.awaits i) + fulfilled.countP (·.1 = i) =
      (if i < s.currentIndex then 1 else 0) + (Runner.awaits i (s.takeNext items).2).toNat)
    (placed : ∀ i value, (i, value) ∈ fulfilled → s.results[i]? = some (some value)) :
    Running items { (s.takeNext items).1 with pool } fulfilled := by
  rcases takeNext_cases items s with ⟨item, found, taken⟩ | ⟨last, ended⟩
  · have bound := (List.getElem?_eq_some_iff.mp found).1
    rw [taken] at members counts ⊢
    refine ⟨bound, calls_takeNext calls found, length, ?_, ?_, placed⟩
    · intro runner mem
      rcases members runner mem with before | rfl
      · refine (runners runner before).imp_right fun both => absurd both.2 (Nat.ne_of_lt bound)
      · exact .inl rfl
    · intro i
      rw [counts i]
      by_cases here : s.currentIndex = i
      · simp [here]
      · have apart : Runner.awaits i (.awaiting s.currentIndex : Runner ε) = false := by
          simpa using here
        rw [apart]
        dsimp only
        split <;> split <;> simp <;> omega
  · have complete := Nat.le_antisymm index last
    rw [ended] at members counts ⊢
    refine ⟨index, calls, length, ?_, counts, placed⟩
    intro runner mem
    rcases members runner mem with before | rfl
    · exact runners runner before
    · exact .inr ⟨rfl, complete⟩

theorem Running.launch (h : s.Running items []) (n : Nat) :
    Running items (WorkerPool.launch items n s) [] ∧
      (WorkerPool.launch items n s).pool.length = s.pool.length + n ∧
      (WorkerPool.launch items n s).settled = s.settled := by
  induction n generalizing s with
  | zero => exact ⟨h, rfl, rfl⟩
  | succ n ih =>
    have pushed : Running items
        { (s.takeNext items).1 with pool := (s.takeNext items).1.pool ++ [(s.takeNext items).2] } [] := by
      rw [takeNext_pool]
      apply Running.of_takeNext h.index h.calls h.length h.runners _ _ h.placed
      · intro runner mem
        exact (List.mem_append.mp mem).imp_right List.mem_singleton.mp
      · intro i
        have counts := h.counts i
        rw [List.countP_append, List.countP_singleton]
        cases Runner.awaits i (s.takeNext items).2 <;> simp at counts ⊢ <;> omega
    obtain ⟨running, length, settled⟩ := ih pushed
    refine ⟨running, length.trans ?_, settled.trans (takeNext_settled items s)⟩
    rw [takeNext_pool, List.length_append, List.length_singleton]
    omega

theorem Running.all_iff (h : s.Running items fulfilled) :
    s.pool.all Runner.isFulfilled = true ↔ s.pending = 0 := by
  unfold pending
  rw [List.countP_eq_zero, List.all_eq_true]
  constructor
  · intro all runner mem pending
    have ended := all runner mem
    cases runner <;> contradiction
  · intro none runner mem
    rcases h.runners runner mem with pending | ⟨rfl, -⟩
    · exact absurd pending (none runner mem)
    · rfl

theorem Running.finished (h : s.Running items fulfilled) (size : 0 < s.pool.length)
    (all : s.pool.all Runner.isFulfilled = true) :
    s.currentIndex = items.length ∧ ∀ i < items.length, fulfilled.countP (·.1 = i) = 1 := by
  rw [List.all_eq_true] at all
  have complete : s.currentIndex = items.length := by
    obtain ⟨runner, mem⟩ := List.exists_mem_of_length_pos size
    rcases h.runners runner mem with pending | ⟨-, complete⟩
    · have ended := all runner mem
      cases runner <;> contradiction
    · exact complete
  refine ⟨complete, fun i inside => ?_⟩
  have counts := h.counts i
  have none : s.pool.countP (Runner.awaits i) = 0 := by
    refine List.countP_eq_zero.mpr fun runner mem awaits => ?_
    have ended := all runner mem
    cases runner <;> contradiction
  rw [none, complete, if_pos inside, Nat.zero_add] at counts
  exact counts

theorem Running.unfinished (h : s.Running items []) (some : items.length ≠ 0)
    (size : 0 < s.pool.length) : ¬ s.pool.all Runner.isFulfilled = true := by
  intro all
  have once := (h.finished size all).2 0 (Nat.pos_of_ne_zero some)
  contradiction

/-- The call has begun, and its promise settles with the last runner. -/
structure Begun (items : List T) (limit : Int) (s : WorkerPool T R ε)
    (fulfilled : List (Nat × R)) : Prop where
  running : s.Running items fulfilled
  size : s.pool.length = BulkOrderService.effectiveLimit limit items.length
  settled : s.settled = if s.pool.all Runner.isFulfilled then some (.ok s.results) else none

theorem Begun.start (limit : Int) (some : items.length ≠ 0) :
    Begun items limit (runWithConcurrency items limit : WorkerPool T R ε) [] := by
  have empty : Running items
      (⟨0, List.replicate items.length none, [], [], none⟩ : WorkerPool T R ε) [] := by
    refine ⟨Nat.zero_le _, rfl, List.length_replicate, ?_, fun i => rfl, ?_⟩
    · intro runner mem
      contradiction
    · intro i value mem
      contradiction
  obtain ⟨running, length, settled⟩ :=
    empty.launch (BulkOrderService.effectiveLimit limit items.length)
  have size : (WorkerPool.launch items (BulkOrderService.effectiveLimit limit items.length)
      (⟨0, List.replicate items.length none, [], [], none⟩ : WorkerPool T R ε)).pool.length =
        BulkOrderService.effectiveLimit limit items.length := by simpa using length
  have some_runner := BulkOrderService.effectiveLimit_pos limit items.length
  rw [← size] at some_runner
  have unfinished := running.unfinished some some_runner
  unfold runWithConcurrency awaitAll
  rw [if_neg some, if_neg fun both => unfinished (Bool.and_eq_true_iff.mp both).2]
  exact ⟨running, size, settled.trans (if_neg unfinished).symm⟩

theorem Running.fulfil (value : R) (h : s.Running items fulfilled)
    (awaiting : s.pool[k]? = some (.awaiting index)) :
    let written := { s with results := s.results.set index (some value) }
    Running items
      { (written.takeNext items).1 with
        pool := (written.takeNext items).1.pool.set k (written.takeNext items).2 }
      (fulfilled ++ [(index, value)]) := by
  intro written
  rw [takeNext_pool]
  have waited : 0 < s.pool.countP (Runner.awaits index) :=
    List.countP_pos_iff.mpr ⟨_, List.mem_of_getElem? awaiting, by simp⟩
  have counts := h.counts index
  have below : index < s.currentIndex := by
    by_contra beyond
    rw [if_neg beyond] at counts
    omega
  rw [if_pos below] at counts
  have unfinished : fulfilled.countP (·.1 = index) = 0 := by omega
  have inside : index < s.results.length := h.length ▸ Nat.lt_of_lt_of_le below h.index
  apply Running.of_takeNext (s := written) h.index h.calls (List.length_set.trans h.length) h.runners
  · intro runner mem
    exact (List.mem_or_eq_of_mem_set mem)
  · intro i
    have set := countP_set_add (p := Runner.awaits i) (written.takeNext items).2 awaiting
    have before := h.counts i
    rw [List.countP_append, List.countP_singleton]
    change (s.pool.set k _).countP _ + _ = (if i < s.currentIndex then 1 else 0) + _
    rw [← before]
    have old : Runner.awaits i (.awaiting index : Runner ε) = decide (index = i) := rfl
    rw [old] at set
    by_cases same : index = i
    · simp only [same, decide_true, Bool.toNat_true, if_true] at set ⊢
      omega
    · simp only [same, decide_false, Bool.toNat_false, Bool.false_eq_true, if_false] at set ⊢
      omega
  · intro i other mem
    rcases List.mem_append.mp mem with earlier | new
    · have apart : index ≠ i := by
        rintro rfl
        exact List.countP_eq_zero.mp unfinished (index, other) earlier (by simp)
      exact (List.getElem?_set_ne apart).trans (h.placed i other earlier)
    · cases List.mem_singleton.mp new
      exact List.getElem?_set_self inside

theorem Begun.next {limit : Int} {l : PoolLabel R ε} (h : s.Begun items limit fulfilled)
    (healthy : l.fulfils = true) (moved : (workerPool T R ε items).next s l = some t) :
    t.Begun items limit (noteFulfilled s l t fulfilled) := by
  change s.next items l = some t at moved
  cases l with
  | reject k error => contradiction
  | fulfil k value =>
    unfold WorkerPool.next at moved
    dsimp only at moved
    split at moved
    next index awaiting =>
      have noted : noteFulfilled s (.fulfil k value) t fulfilled = fulfilled ++ [(index, value)] := by
        simp only [noteFulfilled, awaiting]
      have running := h.running.fulfil value awaiting
      have unsettled : s.settled = none := by
        rw [h.settled]
        refine if_neg fun all => ?_
        have ended := List.all_eq_true.mp all _ (List.mem_of_getElem? awaiting)
        contradiction
      rw [noted]
      cases moved
      unfold awaitAll
      split
      next both =>
        refine ⟨⟨running.index, running.calls, running.length, running.runners, running.counts,
          running.placed⟩, ?_, (if_pos (Bool.and_eq_true_iff.mp both).2).symm⟩
        simpa using h.size
      next both =>
        refine ⟨running, by simpa using h.size, ?_⟩
        rw [takeNext_settled, unsettled] at both ⊢
        exact (if_neg both).symm
    next => contradiction

theorem Begun.correct {limit : Int} (h : s.Begun items limit fulfilled) :
    s.Correct items limit fulfilled := by
  have runners := BulkOrderService.effectiveLimit_pos limit items.length
  rw [← h.size] at runners
  refine ⟨?_, ?_, ?_, ?_, ?_, ?_⟩
  · rw [h.running.calls]
    exact List.take_prefix ..
  · have most : s.pending ≤ s.pool.length := List.countP_le_length
    have size : s.pool.length = (max 1 (min limit items.length)).toNat := h.size
    omega
  · intro i inside unfinished
    by_contra idle
    have all := h.running.all_iff.mpr (Nat.eq_zero_of_not_pos idle)
    have once := (h.running.finished runners all).2 i inside
    obtain ⟨⟨j, value⟩, mem, same⟩ := List.countP_pos_iff.mp (Nat.lt_of_lt_of_eq Nat.zero_lt_one once.symm)
    cases of_decide_eq_true same
    exact unfinished (List.mem_map_of_mem mem)
  · intro idle
    exact ⟨s.results, h.settled.trans (if_pos (h.running.all_iff.mpr idle))⟩
  · intro results resolved
    have settled := h.settled
    by_cases all : s.pool.all Runner.isFulfilled = true
    · rw [if_pos all, resolved] at settled
      cases settled
      obtain ⟨complete, once⟩ := h.running.finished runners all
      refine ⟨?_, h.running.length, fun i inside => ?_⟩
      · rw [h.running.calls, complete, List.take_of_length_le (by rw [List.length_zipIdx])]
      · have one := once i inside
        rw [List.countP_eq_length_filter] at one
        obtain ⟨⟨j, value⟩, only⟩ := List.length_eq_one_iff.mp one
        have found : (j, value) ∈ fulfilled.filter (·.1 = i) := only ▸ List.mem_singleton_self _
        obtain ⟨mem, same⟩ := List.mem_filter.mp found
        cases of_decide_eq_true same
        exact ⟨value, only, h.running.placed _ value mem⟩
    · rw [if_neg all, resolved] at settled
      contradiction
  · intro error rejected
    have settled := h.settled
    rw [rejected] at settled
    split at settled <;> cases settled

theorem correct_nil (limit : Int) :
    Correct [] limit (runWithConcurrency ([] : List T) limit : WorkerPool T R ε) [] where
  once := List.nil_prefix
  bounded := by
    change (0 : Int) ≤ _
    omega
  live i inside := absurd inside (Nat.not_lt_zero i)
  resolves _ := ⟨[], rfl⟩
  placed results resolved := by
    cases resolved
    exact ⟨rfl, rfl, fun i inside => absurd inside (Nat.not_lt_zero i)⟩
  unrejected error := by
    intro rejected
    cases rejected

/-- For every list, every limit and every order in which the calls of `worker` fulfil, each index gets one
call, no more calls are pending than the limit allows, the pool is never stuck, and what it returns are
the values of the calls in the order of the list. -/
theorem runWithConcurrency_correct (items : List T) (limit : Int)
    (ran : ((workerPool T R ε items).observed noteFulfilled).Reaches (fun _ l => l.fulfils = true)
      (runWithConcurrency items limit, []) (s, fulfilled)) : s.Correct items limit fulfilled := by
  by_cases some : items.length = 0
  · cases List.eq_nil_of_length_eq_zero some
    have still : s = runWithConcurrency [] limit ∧ fulfilled = [] := by
      apply @Machine.Reaches.observed_invariant _ _ _ (fun _ l => PoolLabel.fulfils l = true) _ _ _ _ _ _
        (fun a notes => a = runWithConcurrency [] limit ∧ notes = []) ⟨rfl, rfl⟩ _ ran
      rintro a l b notes ⟨rfl, rfl⟩ - moved
      cases l <;> contradiction
    obtain ⟨rfl, rfl⟩ := still
    exact correct_nil limit
  · apply Begun.correct
    apply @Machine.Reaches.observed_invariant _ _ _ (fun _ l => PoolLabel.fulfils l = true) _ _ _ _ _ _
      (Begun items limit) (.start limit some) _ ran
    intro a l b notes inv healthy moved
    exact inv.next healthy moved

theorem runWithConcurrency_correct_two_runners :
    ∃ (s : WorkerPool String Nat String) (fulfilled : List (Nat × Nat)),
      fulfilled.map Prod.fst = [1, 0, 2] ∧ s.Correct ["a", "b", "c"] 2 fulfilled := by
  obtain ⟨⟨s, fulfilled⟩, ran, order⟩ := Machine.Reaches.of_run_any
    ((workerPool String Nat String ["a", "b", "c"]).observed noteFulfilled)
    (fun _ l => PoolLabel.fulfils l = true) (runWithConcurrency ["a", "b", "c"] (2 : Int), [])
    [.fulfil 1 20, .fulfil 0 10, .fulfil 1 30]
    (fun s => s.2.map Prod.fst = [1, 0, 2]) (by decide)
  exact ⟨s, fulfilled, of_decide_eq_true order, runWithConcurrency_correct _ _ ran⟩

end WorkerPool
end CourierPlatform
