import CourierPlatform.Proofs.CacheEquivalence
import CourierPlatform.Spec.CacheHistory

/-! The memory cache against the history of its calls. It keeps entries that have expired until they
are read, and locks that have expired until they are granted again; no answer depends on them. -/
namespace CourierPlatform
open Library

section
variable {history : List CacheEvent} {now t ttlSeconds : Int} {key other value value' : String}
  {event : CacheEvent}

theorem CacheEvent.writes_set (answer : CacheAnswer) :
    Writes other ⟨now, .set key value ttlSeconds, answer⟩ ↔ other = key := by
  simp [Writes, eq_comm]

theorem CacheEvent.writes_del (answer : CacheAnswer) :
    Writes other ⟨now, .del key, answer⟩ ↔ other = key := by
  simp [Writes, eq_comm]

theorem not_serves_nil : ¬ Serves [] t key value := by
  rintro ⟨since, ttlSeconds, h, -⟩
  exact not_since_nil h

theorem not_leases_nil {lockKey : String} : ¬ Leases [] t lockKey := by
  rintro ⟨since, ttlSeconds, h, -⟩
  exact not_since_nil h

theorem serves_append_of_not_writes (idle : ¬ event.Writes key) :
    Serves (history ++ [event]) t key value ↔ Serves history t key value := by
  simp only [Serves, since_append_of_not idle idle]

theorem serves_append_set : Serves (history ++ [⟨now, .set key value ttlSeconds, .done⟩]) t key value' ↔
    value' = value ∧ t ≤ now + 1000 * ttlSeconds := by
  have writes : CacheEvent.Writes key ⟨now, .set key value ttlSeconds, .done⟩ :=
    (CacheEvent.writes_set _).mpr rfl
  constructor
  · rintro ⟨since, ttl, h, lives⟩
    rcases since_append.mp h with ⟨-, same⟩ | ⟨-, unwritten⟩
    · cases same
      exact ⟨rfl, lives⟩
    · exact absurd writes unwritten
  · rintro ⟨rfl, lives⟩
    exact ⟨now, ttlSeconds, since_append.mpr (.inl ⟨writes, rfl⟩), lives⟩

theorem not_serves_append_del :
    ¬ Serves (history ++ [⟨now, .del key, .done⟩]) t key value := by
  rintro ⟨since, ttl, h, -⟩
  rcases since_append.mp h with ⟨-, same⟩ | ⟨-, unwritten⟩
  · cases same
  · exact unwritten ((CacheEvent.writes_del _).mpr rfl)

theorem leases_append_of_not {lockKey : String} (idle : ¬ event.Grants lockKey)
    (harmless : ¬ event.Releases lockKey) :
    Leases (history ++ [event]) t lockKey ↔ Leases history t lockKey := by
  simp only [Leases, since_append_of_not idle harmless]

theorem leases_append_granted {lockKey : String} :
    Leases (history ++ [⟨now, .acquireLock lockKey ttlSeconds, .granted true⟩]) t lockKey ↔
      t < now + 1000 * ttlSeconds ∨ Leases history t lockKey := by
  have grants : CacheEvent.Grants lockKey ⟨now, .acquireLock lockKey ttlSeconds, .granted true⟩ :=
    ⟨⟨ttlSeconds, rfl⟩, rfl⟩
  have harmless : ¬ CacheEvent.Releases lockKey
      ⟨now, .acquireLock lockKey ttlSeconds, .granted true⟩ := by
    simp [CacheEvent.Releases]
  constructor
  · rintro ⟨since, ttl, h, lasts⟩
    rcases since_append.mp h with ⟨-, same⟩ | ⟨earlier, -⟩
    · cases same
      exact .inl lasts
    · exact .inr ⟨since, ttl, earlier, lasts⟩
  · rintro (lasts | ⟨since, ttl, earlier, lasts⟩)
    · exact ⟨now, ttlSeconds, since_append.mpr (.inl ⟨grants, rfl⟩), lasts⟩
    · exact ⟨since, ttl, since_append.mpr (.inr ⟨earlier, harmless⟩), lasts⟩

theorem not_leases_append_release {lockKey : String} :
    ¬ Leases (history ++ [⟨now, .releaseLock lockKey, .done⟩]) t lockKey := by
  rintro ⟨since, ttl, h, -⟩
  rcases since_append.mp h with ⟨-, same⟩ | ⟨-, unreleased⟩
  · cases same
  · exact unreleased rfl

end

namespace MemoryCacheService

variable {cache cache' : MemoryCacheService} {history : List CacheEvent} {now t : Int}

theorem get_locks (cache : MemoryCacheService) (now : Int) (key : String) :
    (cache.get now key).1.locks = cache.locks := by
  unfold get
  split
  · rfl
  · split <;> rfl

theorem get_storage_of_ne (cache : MemoryCacheService) (now : Int) {key other : String}
    (different : other ≠ key) : (cache.get now key).1.storage other = cache.storage other := by
  unfold get
  split
  · rfl
  · split
    · exact Function.update_of_ne different _ _
    · rfl

theorem get_set {key stored value : String} {ttlSeconds : Int} :
    ((cache.set now key stored ttlSeconds).get t key).2 = some value ↔
      value = stored ∧ t ≤ now + 1000 * ttlSeconds := by
  rw [get_snd, show (cache.set now key stored ttlSeconds).storage key =
    some ⟨stored, now + ttlSeconds * 1000⟩ from Function.update_self .., Option.bind_some]
  by_cases lives : t ≤ now + 1000 * ttlSeconds
  · rw [if_neg (by dsimp only; omega)]
    simp [lives, eq_comm]
  · rw [if_pos (by dsimp only; omega)]
    simp [lives]

theorem get_congr (same : cache.storage = cache'.storage) (key : String) :
    (cache.get t key).2 = (cache'.get t key).2 := by
  rw [get_snd, get_snd, same]

theorem locked_congr (same : cache.locks = cache'.locks) (lockKey : String) :
    cache.locked t lockKey = cache'.locked t lockKey := by
  unfold locked
  rw [same]

theorem acquireLock_storage (cache : MemoryCacheService) (now : Int) (lockKey : String)
    (ttlSeconds : Int) : (cache.acquireLock now lockKey ttlSeconds).1.storage = cache.storage := by
  unfold acquireLock
  split <;> rfl

theorem acquireLock_free {lockKey : String} (ttlSeconds : Int)
    (free : cache.locked now lockKey = false) :
    cache.acquireLock now lockKey ttlSeconds =
      ({ cache with locks := Function.update cache.locks lockKey (some (now + ttlSeconds * 1000)) },
        true) := by
  simp [acquireLock, free]

theorem acquireLock_taken {lockKey : String} (ttlSeconds : Int)
    (taken : cache.locked now lockKey = true) :
    cache.acquireLock now lockKey ttlSeconds = (cache, false) := by
  simp [acquireLock, taken]

theorem acquireLock_snd (cache : MemoryCacheService) (now : Int) (lockKey : String)
    (ttlSeconds : Int) :
    (cache.acquireLock now lockKey ttlSeconds).2 = !cache.locked now lockKey := by
  unfold acquireLock
  split <;> simp_all

def RecallsValues (cache : MemoryCacheService) (now : Int) (history : List CacheEvent) : Prop :=
  ∀ t, now ≤ t → ∀ key value, (cache.get t key).2 = some value ↔ Serves history t key value

def RecallsLocks (cache : MemoryCacheService) (now : Int) (history : List CacheEvent) : Prop :=
  ∀ t, now ≤ t → ∀ lockKey, cache.locked t lockKey = true ↔ Leases history t lockKey

theorem RecallsValues.of_idle (h : cache.RecallsValues now history)
    {event : CacheEvent} (same : cache'.storage = cache.storage)
    (idle : ∀ key, ¬ event.Writes key) : cache'.RecallsValues now (history ++ [event]) := by
  intro t since key value
  rw [get_congr same, serves_append_of_not_writes (idle key)]
  exact h t since key value

theorem RecallsValues.perform (h : cache.RecallsValues now history) (op : CacheOp) :
    (cache.perform now op).1.RecallsValues now
      (history ++ [⟨now, op, (cache.perform now op).2⟩]) := by
  cases op with
  | get read =>
    intro t since key value
    rw [serves_append_of_not_writes (by simp [CacheEvent.Writes]), ← h t since key value]
    simp only [MemoryCacheService.perform, get_of_get cache now read key since]
  | set written stored ttlSeconds =>
    intro t since key value
    simp only [MemoryCacheService.perform]
    by_cases same : key = written
    · subst same
      rw [serves_append_set]
      exact get_set
    · rw [serves_append_of_not_writes ((CacheEvent.writes_set _).not.mpr same), ← h t since key value]
      exact iff_of_eq (congrArg (· = some value)
        (memoryStore.look_set_of_ne cache now written stored ttlSeconds t key same since))
  | del removed =>
    intro t since key value
    simp only [MemoryCacheService.perform]
    by_cases same : key = removed
    · subst same
      have gone : ((cache.del key).get t key).2 = none := memoryStore.look_del cache now key t since
      rw [gone]
      exact iff_of_false (by simp) not_serves_append_del
    · rw [serves_append_of_not_writes ((CacheEvent.writes_del _).not.mpr same), ← h t since key value]
      exact iff_of_eq (congrArg (· = some value)
        (memoryStore.look_del_of_ne cache now removed t key same since))
  | acquireLock lockKey ttlSeconds =>
    exact h.of_idle (acquireLock_storage cache now lockKey ttlSeconds) (by simp [CacheEvent.Writes])
  | releaseLock lockKey => exact h.of_idle rfl (by simp [CacheEvent.Writes])

theorem RecallsLocks.of_idle (h : cache.RecallsLocks now history)
    {event : CacheEvent} (same : cache'.locks = cache.locks)
    (idle : ∀ lockKey, ¬ event.Grants lockKey) (harmless : ∀ lockKey, ¬ event.Releases lockKey) :
    cache'.RecallsLocks now (history ++ [event]) := by
  intro t since lockKey
  rw [locked_congr same, leases_append_of_not (idle lockKey) (harmless lockKey)]
  exact h t since lockKey

theorem RecallsLocks.acquireLock (h : cache.RecallsLocks now history) (positive : 0 < now)
    (lockKey : String) (ttlSeconds : Int) :
    (cache.acquireLock now lockKey ttlSeconds).1.RecallsLocks now (history ++
      [⟨now, .acquireLock lockKey ttlSeconds,
        .granted (cache.acquireLock now lockKey ttlSeconds).2⟩]) := by
  cases taken : cache.locked now lockKey with
  | true =>
    rw [acquireLock_taken ttlSeconds taken]
    exact h.of_idle rfl (by simp [CacheEvent.Grants]) (by simp [CacheEvent.Releases])
  | false =>
    rw [acquireLock_free ttlSeconds taken]
    intro t since other
    by_cases same : other = lockKey
    · subst same
      -- no lease that was open before is left
      have ended : ¬ Leases history t other := by
        intro lasts
        have early := locked_of_later since ((h t since other).mpr lasts)
        rw [taken] at early
        contradiction
      rw [leases_append_granted, locked_iff]
      constructor
      · rintro ⟨expiry, stored, -, before⟩
        have expires : now + ttlSeconds * 1000 = expiry := by simpa using stored
        exact .inl (by omega)
      · rintro (lasts | lasts)
        · exact ⟨now + ttlSeconds * 1000, Function.update_self .., by omega, by omega⟩
        · exact absurd lasts ended
    · rw [leases_append_of_not (by simp [CacheEvent.Grants, Ne.symm same])
        (by simp [CacheEvent.Releases]), ← h t since other]
      simp [locked, Function.update_of_ne same]

theorem RecallsLocks.perform (h : cache.RecallsLocks now history) (positive : 0 < now)
    (op : CacheOp) :
    (cache.perform now op).1.RecallsLocks now
      (history ++ [⟨now, op, (cache.perform now op).2⟩]) := by
  cases op with
  | get key =>
    exact h.of_idle (get_locks cache now key) (by simp [CacheEvent.Grants])
      (by simp [CacheEvent.Releases])
  | set key value ttlSeconds =>
    exact h.of_idle rfl (by simp [CacheEvent.Grants]) (by simp [CacheEvent.Releases])
  | del key => exact h.of_idle rfl (by simp [CacheEvent.Grants]) (by simp [CacheEvent.Releases])
  | acquireLock lockKey ttlSeconds => exact h.acquireLock positive lockKey ttlSeconds
  | releaseLock lockKey =>
    intro t since other
    by_cases same : other = lockKey
    · subst same
      apply iff_of_false
      · simp [MemoryCacheService.perform, releaseLock, locked]
      · exact not_leases_append_release
    · rw [leases_append_of_not (by simp [CacheEvent.Grants])
        (by simp [CacheEvent.Releases, Ne.symm same]), ← h t since other]
      simp [MemoryCacheService.perform, releaseLock, locked, Function.update_of_ne same]

structure Recalls (cache : MemoryCacheService) (now : Int) (history : List CacheEvent) : Prop where
  values : cache.RecallsValues now history
  locks : cache.RecallsLocks now history

theorem Recalls.empty : MemoryCacheService.empty.Recalls now [] where
  values := by
    intro t since key value
    exact iff_of_false (by simp [get, MemoryCacheService.empty]) not_serves_nil
  locks := by
    intro t since lockKey
    exact iff_of_false (by simp [locked, MemoryCacheService.empty]) not_leases_nil

theorem Recalls.later (h : cache.Recalls now history) (since : now ≤ t) :
    cache.Recalls t history where
  values := fun instant after => h.values instant (Int.le_trans since after)
  locks := fun instant after => h.locks instant (Int.le_trans since after)

theorem Recalls.perform (h : cache.Recalls now history) (positive : 0 < now) (op : CacheOp) :
    (cache.perform now op).1.Recalls now (history ++ [⟨now, op, (cache.perform now op).2⟩]) :=
  ⟨h.values.perform op, h.locks.perform positive op⟩

theorem Recalls.events {calls : List (Int × CacheOp)} {before after : List CacheEvent}
    {op : CacheOp} {answer : CacheAnswer} (h : cache.Recalls now history)
    (positive : ∀ call ∈ calls, 0 < call.1) (since : ∀ call ∈ calls, now ≤ call.1)
    (clock : (calls.map Prod.fst).Pairwise (· ≤ ·))
    (split : cache.events calls = before ++ ⟨t, op, answer⟩ :: after) :
    ∃ cache' : MemoryCacheService, cache'.Recalls t (history ++ before) ∧
      answer = (cache'.perform t op).2 := by
  induction calls generalizing cache now history before with
  | nil => exact absurd split.symm (List.append_ne_nil_of_right_ne_nil _ (List.cons_ne_nil _ _))
  | cons head rest ih =>
    obtain ⟨instant, call⟩ := head
    have here : cache.Recalls instant history := h.later (since _ List.mem_cons_self)
    rw [MemoryCacheService.events] at split
    cases before with
    | nil =>
      cases split
      exact ⟨cache, by simpa using here, rfl⟩
    | cons first others =>
      rw [List.cons_append, List.cons.injEq] at split
      obtain ⟨rfl, split⟩ := split
      obtain ⟨later, ticks⟩ := clock_cons.mp clock
      have next := here.perform (positive _ List.mem_cons_self) call
      simpa using ih next (fun call member => positive call (List.mem_cons_of_mem _ member))
        later ticks split

def SameAt (cache cache' : MemoryCacheService) : CachePart → Prop
  | .value key => cache.storage key = cache'.storage key
  | .lock lockKey => cache.locks lockKey = cache'.locks lockKey

theorem SameAt.perform_of_ne {part : CachePart} {op : CacheOp} (h : cache.SameAt cache' part)
    (different : op.part ≠ part) : (cache.perform now op).1.SameAt cache' part := by
  cases part with
  | value key =>
    rw [SameAt, ← show cache.storage key = cache'.storage key from h]
    cases op with
    | get read =>
      exact get_storage_of_ne cache now fun same => different (by rw [same, CacheOp.part])
    | set written value ttlSeconds =>
      exact Function.update_of_ne (fun same => different (by rw [same, CacheOp.part])) _ _
    | del removed =>
      exact Function.update_of_ne (fun same => different (by rw [same, CacheOp.part])) _ _
    | acquireLock lockKey ttlSeconds =>
      exact congrFun (acquireLock_storage cache now lockKey ttlSeconds) key
    | releaseLock lockKey => rfl
  | lock lockKey =>
    rw [SameAt, ← show cache.locks lockKey = cache'.locks lockKey from h]
    cases op with
    | get read => exact congrFun (get_locks cache now read) lockKey
    | set written value ttlSeconds => rfl
    | del removed => rfl
    | acquireLock other ttlSeconds =>
      have apart : lockKey ≠ other := fun same => different (by rw [same, CacheOp.part])
      cases taken : cache.locked now other with
      | true => simp [perform, acquireLock_taken ttlSeconds taken]
      | false => simp [perform, acquireLock_free ttlSeconds taken, Function.update_of_ne apart]
    | releaseLock other =>
      exact Function.update_of_ne (fun same => different (by rw [same, CacheOp.part])) _ _

theorem SameAt.perform (now : Int) {op : CacheOp} (h : cache.SameAt cache' op.part) :
    (cache.perform now op).2 = (cache'.perform now op).2 ∧
      (cache.perform now op).1.SameAt (cache'.perform now op).1 op.part := by
  cases op with
  | get key =>
    have same : cache.storage key = cache'.storage key := h
    constructor
    · simp [MemoryCacheService.perform, get_snd, same]
    · simp only [MemoryCacheService.perform, SameAt, CacheOp.part, get, ← same]
      cases stored : cache.storage key with
      | none => simp [← same, stored]
      | some item => simp only; split <;> simp [← same, stored]
  | set key value ttlSeconds =>
    exact ⟨rfl, by simp [MemoryCacheService.perform, SameAt, CacheOp.part, set]⟩
  | del key => exact ⟨rfl, by simp [MemoryCacheService.perform, SameAt, CacheOp.part, del]⟩
  | acquireLock lockKey ttlSeconds =>
    have same : cache.locks lockKey = cache'.locks lockKey := h
    have locked : cache'.locked now lockKey = cache.locked now lockKey := by
      simp only [MemoryCacheService.locked, same]
    simp only [MemoryCacheService.perform, SameAt, CacheOp.part]
    cases taken : cache.locked now lockKey with
    | true => simp [acquireLock_taken, taken, locked, same]
    | false => simp [acquireLock_free, taken, locked]
  | releaseLock lockKey =>
    exact ⟨rfl, by simp [MemoryCacheService.perform, SameAt, CacheOp.part, releaseLock]⟩

theorem SameAt.events {part : CachePart} {calls : List (Int × CacheOp)}
    (h : cache.SameAt cache' part) :
    (cache.events calls).filter (fun event => event.op.part = part) =
      cache'.events (calls.filter fun call => call.2.part = part) := by
  induction calls generalizing cache cache' with
  | nil => rfl
  | cons head rest ih =>
    obtain ⟨now, op⟩ := head
    by_cases same : op.part = part
    · subst same
      obtain ⟨answer, next⟩ := h.perform now
      simp [MemoryCacheService.events, answer, ih next]
    · simpa [MemoryCacheService.events, same] using ih (h.perform_of_ne same)

end MemoryCacheService

/-- The memory cache answers every run of calls, under a clock that is positive and does not go back,
by the history of the run. -/
theorem memoryCache_followsHistory {calls : List (Int × CacheOp)}
    (positive : ∀ call ∈ calls, 0 < call.1) (clock : (calls.map Prod.fst).Pairwise (· ≤ ·)) :
    FollowsHistory calls where
  get := by
    intro before after t key answer split
    obtain ⟨cache, recalls, rfl⟩ := MemoryCacheService.Recalls.empty.events positive
      (fun call member => Int.le_of_lt (positive call member)) clock split
    exact ⟨(cache.get t key).2, rfl, fun value => recalls.values t (Int.le_refl t) key value⟩
  acquireLock := by
    intro before after t lockKey ttlSeconds answer split
    obtain ⟨cache, recalls, rfl⟩ := MemoryCacheService.Recalls.empty.events positive
      (fun call member => Int.le_of_lt (positive call member)) clock split
    refine ⟨(cache.acquireLock t lockKey ttlSeconds).2, rfl, ?_⟩
    have taken : cache.locked t lockKey = true ↔ Leases before t lockKey :=
      recalls.locks t (Int.le_refl t) lockKey
    rw [MemoryCacheService.acquireLock_snd, ← taken]
    simp
  apart := by
    intro part
    apply MemoryCacheService.SameAt.events
    cases part <;> rfl

theorem memoryCache_followsHistory_run : FollowsHistory
    [(1, .set "test:key" "token_value_123" 60), (1, .set "test:expire" "expired_val" (-1)),
      (2, .get "test:expire"), (2, .acquireLock "auth:urbanebolt" 10), (3, .get "test:key"),
      (4, .acquireLock "auth:urbanebolt" 10), (5, .releaseLock "auth:urbanebolt"),
      (5, .acquireLock "auth:urbanebolt" 10), (6, .del "test:key"), (7, .get "test:key")] := by
  apply memoryCache_followsHistory <;> decide

end CourierPlatform
