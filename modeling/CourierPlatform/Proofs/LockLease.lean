import CourierPlatform.Library.Lease
import CourierPlatform.Model.CacheService
import CourierPlatform.Model.ReconciliationWorker
import Mathlib.Data.Nat.Basic

/-! The locks of the cache services as leases. Neither service keeps a token of the holder, so
whether a lease is safe is decided by the moments at which its lock is released. -/
namespace CourierPlatform
open Library

section
variable {Db : Type} (server : RedisServer Db) (lockKey : String) {ttlSeconds : Int}

def SharedCache.lockHeld : SharedCache Db → Nat → Prop
  | memory cache, t => cache.locked t lockKey = true
  | redis keyPrefix db, t =>
    (server.get db t (keyPrefix ++ RedisCacheService.lockKeyOf lockKey)).isSome = true

theorem SharedCache.lockHeld_memory {cache : MemoryCacheService} {t : Nat} :
    lockHeld server lockKey (memory cache) t ↔ cache.locked t lockKey = true := Iff.rfl

theorem SharedCache.lockHeld_redis {keyPrefix : String} {db : Db} {t : Nat} :
    lockHeld server lockKey (redis keyPrefix db) t ↔
      (server.get db t (keyPrefix ++ RedisCacheService.lockKeyOf lockKey)).isSome = true := Iff.rfl

theorem lt_leaseExpiry {now t : Nat} : t < leaseExpiry now ttlSeconds ↔
    (t : Int) < now + ttlSeconds * 1000 := by
  unfold leaseExpiry
  omega

theorem ttl_pos_of_lasting {now : Nat} (lasts : now < leaseExpiry now ttlSeconds) :
    0 < ttlSeconds := by
  rw [lt_leaseExpiry] at lasts
  omega

theorem lt_leaseExpiry_lockTtl (now : Nat) (intervalMs : Int) :
    now < leaseExpiry now (ReconciliationWorker.lockTtlSeconds intervalMs) := by
  rw [lt_leaseExpiry]
  unfold ReconciliationWorker.lockTtlSeconds
  omega

namespace SharedCache

variable {keyPrefix : String} {db : Db} {now : Nat}

theorem acquireLock_memory (cache : MemoryCacheService) (now : Int) (ttlSeconds : Int) :
    (memory cache).acquireLock server now .connected lockKey ttlSeconds =
      if cache.locked now lockKey then (memory cache, false)
      else (memory { cache with
        locks := Function.update cache.locks lockKey (some (now + ttlSeconds * 1000)) }, true) := by
  simp only [acquireLock, MemoryCacheService.acquireLock]
  split <;> rfl

theorem acquireLock_redis (keyPrefix : String) (db : Db) (now ttlSeconds : Int) {db' : Db}
    {reply : RedisReply}
    (answer : server.setExNx db now (keyPrefix ++ RedisCacheService.lockKeyOf lockKey) "LOCKED"
      ttlSeconds = (db', reply)) :
    (redis keyPrefix db).acquireLock server now .connected lockKey ttlSeconds =
      (redis keyPrefix db', reply = .ok || reply = .error) := by
  simp [acquireLock, Access.connected, Access.service, RedisCacheService.acquireLock,
    RedisCacheService.serverKey, answer]

theorem acquireLock_free (lasts : 0 < ttlSeconds) (free : server.get db now
      (keyPrefix ++ RedisCacheService.lockKeyOf lockKey) = none) :
    (redis keyPrefix db).acquireLock server now .connected lockKey ttlSeconds =
      (redis keyPrefix (server.setEx db now (keyPrefix ++ RedisCacheService.lockKeyOf lockKey)
        "LOCKED" ttlSeconds), true) :=
  acquireLock_redis _ _ _ _ _ _ (server.setExNx_free _ _ _ _ _ lasts free)

theorem acquireLock_taken (lasts : 0 < ttlSeconds) (taken : (server.get db now
      (keyPrefix ++ RedisCacheService.lockKeyOf lockKey)).isSome) :
    (redis keyPrefix db).acquireLock server now .connected lockKey ttlSeconds =
      (redis keyPrefix db, false) :=
  acquireLock_redis _ _ _ _ _ _ (server.setExNx_taken _ _ _ _ _ lasts taken)

theorem acquireLock_invalid (ends : ttlSeconds ≤ 0) :
    (redis keyPrefix db).acquireLock server now .connected lockKey ttlSeconds =
      (redis keyPrefix db, true) :=
  acquireLock_redis _ _ _ _ _ _ (server.setExNx_invalid _ _ _ _ _ ends)

theorem acquireLock_reached {cache : SharedCache Db} {access : Access}
    (reached : cache.reachedBy access = true) :
    cache.acquireLock server now access lockKey ttlSeconds =
      cache.acquireLock server now .connected lockKey ttlSeconds := by
  cases cache with
  | memory cache => rfl
  | redis keyPrefix db =>
    have same : access = .connected := by simpa [reachedBy, Access.reaches] using reached
    rw [same]

theorem releaseLock_redis (keyPrefix : String) (db : Db) (now : Int) :
    (redis keyPrefix db).releaseLock server now .connected lockKey =
      redis keyPrefix (server.del db now (keyPrefix ++ RedisCacheService.lockKeyOf lockKey)) := rfl

theorem releaseLock_cases (cache : SharedCache Db) (now : Int) (access : Access) :
    cache.releaseLock server now access lockKey = cache.releaseLock server now .connected lockKey ∨
      cache.releaseLock server now access lockKey = cache := by
  cases cache with
  | memory cache => exact .inl rfl
  | redis keyPrefix db =>
    obtain ⟨hasClient, isConnected, delivery⟩ := access
    cases hasClient with
    | false => exact .inr rfl
    | true =>
      cases isConnected with
      | false => exact .inr rfl
      | true =>
        cases delivery with
        | replied => exact .inl rfl
        | rejected executed =>
          cases executed with
          | true => exact .inl rfl
          | false => exact .inr rfl

def leaseStore : LeaseStore (SharedCache Db) Int Nat where
  held := lockHeld server lockKey
  expiry := leaseExpiry
  acquire cache now ttlSeconds := cache.acquireLock server now .connected lockKey ttlSeconds
  release cache now := cache.releaseLock server now .connected lockKey
  granted_of_free := by
    intro cache now ttlSeconds free
    cases cache with
    | memory cache =>
      rw [lockHeld_memory] at free
      rw [acquireLock_memory, if_neg free]
    | redis keyPrefix db =>
      by_cases lasts : 0 < ttlSeconds
      · rw [acquireLock_free server lockKey lasts (by simpa [lockHeld_redis] using free)]
      · rw [acquireLock_invalid server lockKey (by omega)]
  free_of_granted := by
    intro cache now ttlSeconds granted lasts
    have positive := ttl_pos_of_lasting lasts
    cases cache with
    | memory cache =>
      intro taken
      rw [lockHeld_memory] at taken
      rw [acquireLock_memory, if_pos taken] at granted
      contradiction
    | redis keyPrefix db =>
      intro taken
      rw [acquireLock_taken server lockKey positive taken] at granted
      contradiction
  held_of_granted := by
    intro cache now ttlSeconds t granted since before
    have lasts : now < leaseExpiry now ttlSeconds := lt_of_le_of_lt since before
    have positive := ttl_pos_of_lasting lasts
    rw [lt_leaseExpiry] at before
    cases cache with
    | memory cache =>
      rw [acquireLock_memory] at granted ⊢
      split at granted
      next => contradiction
      next free =>
        rw [if_neg free]
        apply (MemoryCacheService.locked_iff lockKey).mpr
        refine ⟨now + ttlSeconds * 1000, Function.update_self .., ?_, before⟩
        omega
    | redis keyPrefix db =>
      cases taken : server.get db now (keyPrefix ++ RedisCacheService.lockKeyOf lockKey) with
      | some value =>
        rw [acquireLock_taken server lockKey positive (by simp [taken])] at granted
        contradiction
      | none =>
        rw [acquireLock_free server lockKey positive taken]
        rw [lockHeld_redis, server.get_setEx _ _ _ _ _ _ positive (by omega) before]
        rfl
  held_of_held := by
    intro cache now ttlSeconds t ended since held
    cases cache with
    | memory cache =>
      rw [acquireLock_memory]
      split
      next => exact held
      next free => exact absurd (MemoryCacheService.locked_of_later (by omega) held) free
    | redis keyPrefix db =>
      by_cases lasts : 0 < ttlSeconds
      · cases taken : server.get db now (keyPrefix ++ RedisCacheService.lockKeyOf lockKey) with
        | some value =>
          rw [acquireLock_taken server lockKey lasts (by simp [taken])]
          exact held
        | none =>
          have late := ended (by rw [acquireLock_free server lockKey lasts taken])
          have begins : now < leaseExpiry now ttlSeconds := lt_leaseExpiry.mpr (by omega)
          omega
      · rw [acquireLock_invalid server lockKey (by omega)]
        exact held
  free_of_released := by
    intro cache now t since
    cases cache with
    | memory cache =>
      simp [lockHeld_memory, releaseLock, MemoryCacheService.releaseLock, MemoryCacheService.locked]
    | redis keyPrefix db =>
      rw [releaseLock_redis, lockHeld_redis, server.get_del _ _ _ _ (by omega)]
      exact Bool.false_ne_true

end SharedCache

/-- Processes that acquire and release one lock of a cache they share, each releasing what it
was granted. -/
def locking (P : Type) [DecidableEq P] :
    Machine (Leased P (SharedCache Db) Nat) (LeaseLabel P Int Nat) :=
  (SharedCache.leaseStore server lockKey).machine

/-- At most one process holds an unexpired lease that it has not released, in every run in which
nobody who is late releases the lock while somebody else holds such a lease. -/
theorem lease_exclusive {P : Type} [DecidableEq P] {cache : SharedCache Db} {now : Nat}
    {s : Leased P (SharedCache Db) Nat}
    (reach : (locking server lockKey P).Reaches Leased.releasesOwn (Leased.start cache now) s) :
    s.Exclusive :=
  (Leased.Safe.of_reaches reach).exclusive

/-- The condition on releases is exact: a release against it opens the lock under a lease that
lasts, and the process that released can be granted the lock again at once. -/
theorem stale_release_breaks_exclusion {P : Type} [DecidableEq P]
    {s : Leased P (SharedCache Db) Nat} {p : P} (leased : (s.leases p).isSome)
    (late : ¬ s.releasesOwn (LeaseLabel.release p : LeaseLabel P Int Nat)) :
    ∃ t, (locking server lockKey P).Reaches (fun _ _ => True) s t ∧ ¬ t.Exclusive := by
  let store := SharedCache.leaseStore server lockKey
  obtain ⟨q, stale, stands⟩ : ∃ q, q ≠ p ∧ s.standing q = true := by
    unfold Leased.releasesOwn at late
    push Not at late
    simpa using late.2
  have free : ((s.release store p).leases p).isNone := by
    simp [Leased.release, Leased.abandon]
  have begins : s.now < leaseExpiry s.now 10 := lt_leaseExpiry.mpr (by omega)
  have lasts : s.now < store.expiry s.now 10 := begins
  have two : ((s.release store p).acquire store p 10).standing q = true ∧
      ((s.release store p).acquire store p 10).standing p = true :=
    Leased.standing_of_stale_release stands stale stale lasts
  refine ⟨(s.release store p).acquire store p 10, ?_, fun claim => stale (claim q p two.1 two.2)⟩
  apply Machine.Reaches.step (.acquire p 10) _ trivial (if_pos free)
  exact Machine.Reaches.refl.step (.release p) trivial (if_pos leased)

end

def leaderLocking : Machine (Leased (Fin 3) (SharedCache RedisTable) Nat) (LeaseLabel (Fin 3) Int Nat) :=
  locking referenceRedis ReconciliationWorker.lockKey (Fin 3)

def leasesInTurn : List (LeaseLabel (Fin 3) Int Nat) :=
  [.acquire 0 10, .acquire 1 10, .wait 4000, .release 0, .acquire 1 10, .wait 15000, .acquire 2 10]

theorem lease_exclusive_inTurn : ∃ s : Leased (Fin 3) (SharedCache RedisTable) Nat,
    (s.standing 2 = true ∧ (s.leases 1).isSome) ∧ s.Exclusive := by
  obtain ⟨s, reach, last⟩ := Machine.Reaches.of_run_any leaderLocking Leased.releasesOwn
    (Leased.start (.redis "courier_platform:" fun _ => none) 1000) leasesInTurn
    (fun s => s.standing 2 && (s.leases 1).isSome) (by decide)
  exact ⟨s, by simpa using last, lease_exclusive referenceRedis ReconciliationWorker.lockKey reach⟩

/-- The lease of the first process runs out, the second is granted the lock, and the first
then deletes it. -/
def staleRelease : List (LeaseLabel (Fin 3) Int Nat) :=
  [.acquire 0 10, .wait 12000, .acquire 1 10, .release 0, .acquire 2 10]

theorem not_exclusive_of_staleRelease {cache : SharedCache RedisTable}
    (two : (leaderLocking.run (fun _ _ => True) (Leased.start cache 1000) staleRelease).any
      (fun s => s.standing 1 && s.standing 2) = true) :
    ¬ ∀ s, leaderLocking.Reaches (fun _ _ => True) (Leased.start cache 1000) s → s.Exclusive := by
  intro claim
  obtain ⟨s, reach, standing⟩ := Machine.Reaches.of_run_any _ _ _ _ _ two
  rw [Bool.and_eq_true] at standing
  exact absurd (claim s reach 1 2 standing.1 standing.2) (by decide)

theorem two_leases_after_stale_release :
    (¬ ∀ s, leaderLocking.Reaches (fun _ _ => True) (Leased.start (.memory .empty) 1000) s → s.Exclusive) ∧
      ¬ ∀ s, leaderLocking.Reaches (fun _ _ => True)
        (Leased.start (.redis "courier_platform:" fun _ => none) 1000) s → s.Exclusive := by
  constructor
  · exact not_exclusive_of_staleRelease (by decide)
  · exact not_exclusive_of_staleRelease (by decide)

end CourierPlatform
