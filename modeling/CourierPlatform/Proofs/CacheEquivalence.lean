import CourierPlatform.Library.Lifetimes
import CourierPlatform.Model.CacheService

/-! The two cache services over whole runs of `get`, `set` and `del`, read off the latest write of
each key. -/
namespace CourierPlatform
open Library

abbrev CacheCall := StoreCall String String Int

abbrev CacheLedger := Ledger String String Int Int

def expiryOf (kept : Kept String Int Int) : Int := kept.since + kept.ttl * 1000

/-- No `get` of the run is made at the very instant at which what it reads expires. -/
def AwayFromExpiry (calls : List (Int × CacheCall)) : Prop :=
  (Ledger.empty : CacheLedger).EveryGet (fun now entry => ∀ kept ∈ entry, now ≠ expiryOf kept) calls

/-- Every `get` of the run reads a key whose latest write, if it is a `set`, gave it a positive
lifetime. -/
def ReadsPositiveTtls (calls : List (Int × CacheCall)) : Prop :=
  (Ledger.empty : CacheLedger).EveryGet (fun _ entry => ∀ kept ∈ entry, 0 < kept.ttl) calls

namespace MemoryCacheService

variable (cache : MemoryCacheService) (now : Int) (key : String)

theorem get_snd : (cache.get now key).2 =
    (cache.storage key).bind fun item => if now > item.expiresAt then none else some item.value := by
  unfold get
  cases cache.storage key with
  | none => rfl
  | some item =>
    simp only [Option.bind_some]
    split <;> rfl

theorem get_of_get {t : Int} (other : String) (since : now ≤ t) :
    ((cache.get now key).1.get t other).2 = (cache.get t other).2 := by
  cases stored : cache.storage key with
  | none => simp [get, stored]
  | some item =>
    by_cases expired : now > item.expiresAt
    · have removed : (cache.get now key).1.storage = Function.update cache.storage key none := by
        simp [get, stored, expired]
      rw [get_snd, get_snd, removed, Function.update_apply]
      by_cases same : other = key
      · subst same
        have later : t > item.expiresAt := by omega
        simp [stored, later]
      · rw [if_neg same]
    · simp [get, stored, expired]

end MemoryCacheService

/-- The memory cache serves an entry up to and including the instant at which it expires. -/
def memoryStore : LifetimeStore MemoryCacheService String String Int Int where
  get cache now key := cache.get now key
  set cache now key value ttl := cache.set now key value ttl
  del cache _ key := cache.del key
  look cache now key := (cache.get now key).2
  lives now kept := now ≤ expiryOf kept
  settled _ _ := True
  answer_get cache now key := rfl
  look_get := by
    intro cache now key t other since
    exact cache.get_of_get now key other since
  look_set := by
    intro cache now key value ttl t since _
    by_cases lives : t ≤ now + ttl * 1000 <;>
      simp [MemoryCacheService.get_snd, MemoryCacheService.set, Ledger.answer, expiryOf, lives]
  look_set_of_ne := by
    intro cache now key value ttl t other different since
    simp [MemoryCacheService.get_snd, MemoryCacheService.set, Function.update_of_ne different]
  look_del := by
    intro cache now key t since
    simp [MemoryCacheService.get_snd, MemoryCacheService.del]
  look_del_of_ne := by
    intro cache now key t other different since
    simp [MemoryCacheService.get_snd, MemoryCacheService.del, Function.update_of_ne different]

theorem redis_set_db {Db : Type} {server : RedisServer Db} {keyPrefix : String} (db : Db) (now : Int)
    (key value : String) (ttlSeconds : Int) :
    (Access.connected.service keyPrefix).set server db now .replied key value ttlSeconds =
      if ttlSeconds > 0 then server.setEx db now (keyPrefix ++ key) value ttlSeconds
      else server.set db now (keyPrefix ++ key) value := rfl

/-- A connected Redis cache keeps what was set without a positive lifetime for good, and leaves open
what it answers at the instant at which an entry expires. -/
def redisStore {Db : Type} (server : RedisServer Db) (keyPrefix : String) :
    LifetimeStore Db String String Int Int where
  get db now key := (db, (Access.connected.service keyPrefix).get server db now .replied key)
  set db now key value ttl :=
    (Access.connected.service keyPrefix).set server db now .replied key value ttl
  del db now key := (Access.connected.service keyPrefix).del server db now .replied key
  look db now key := server.get db now (keyPrefix ++ key)
  lives now kept := kept.ttl ≤ 0 || now ≤ expiryOf kept
  settled now kept := now ≠ expiryOf kept
  answer_get db now key := rfl
  look_get := by
    intro db now key t other since
    rfl
  look_set := by
    intro db now key value ttl t since away
    have away : t ≠ now + ttl * 1000 := away
    rw [redis_set_db]
    by_cases positive : ttl > 0
    · rw [if_pos positive]
      by_cases before : t < now + ttl * 1000
      · have lives : t ≤ now + ttl * 1000 := Int.le_of_lt before
        rw [server.get_setEx db now _ value ttl t positive since before]
        simp [Ledger.answer, expiryOf, lives]
      · have expired : now + ttl * 1000 < t := by omega
        rw [server.get_setEx_expired db now _ value ttl t positive expired]
        have ended : ¬ t ≤ now + ttl * 1000 := by omega
        simp [Ledger.answer, expiryOf, positive, ended]
    · have lasting : ttl ≤ 0 := by omega
      rw [if_neg positive, server.get_set db now _ value t since]
      simp [Ledger.answer, lasting]
  look_set_of_ne := by
    intro db now key value ttl t other different since
    have apart : keyPrefix ++ other ≠ keyPrefix ++ key := by
      simpa [String.append_right_inj] using different
    rw [redis_set_db]
    split
    · exact server.get_setEx_of_ne db now _ value ttl t _ apart since
    · exact server.get_set_of_ne db now _ value t _ apart since
  look_del := by
    intro db now key t since
    exact server.get_del db now (keyPrefix ++ key) t since
  look_del_of_ne := by
    intro db now key t other different since
    have apart : keyPrefix ++ other ≠ keyPrefix ++ key := by
      simpa [String.append_right_inj] using different
    exact server.get_del_of_ne db now (keyPrefix ++ key) t _ apart since

section
variable {Db : Type} {server : RedisServer Db} {keyPrefix : String} {db : Db}
  {calls : List (Int × CacheCall)}

theorem lives_agree_iff {now : Int} {kept : Kept String Int Int} (since : kept.since ≤ now)
    (away : now ≠ expiryOf kept) :
    memoryStore.lives now kept = (redisStore server keyPrefix).lives now kept ↔ 0 < kept.ttl := by
  unfold expiryOf at away
  simp only [memoryStore, redisStore, expiryOf]
  by_cases positive : 0 < kept.ttl
  · have lasting : ¬ kept.ttl ≤ 0 := by omega
    simp [positive, lasting]
  · have expired : ¬ now ≤ kept.since + kept.ttl * 1000 := by omega
    have lasting : kept.ttl ≤ 0 := by omega
    simp [expired, lasting]

/-- From empty caches the two services answer a run alike if and only if no `get` reads a key that
was last set with a lifetime of zero or less: Redis keeps such a value for good, the memory cache not
at all. -/
theorem caches_agree_iff (empty : ∀ t key, server.get db t (keyPrefix ++ key) = none)
    (clock : (calls.map Prod.fst).Pairwise (· ≤ ·)) (away : AwayFromExpiry calls) :
    memoryStore.answers .empty calls = (redisStore server keyPrefix).answers db calls ↔
      ReadsPositiveTtls calls := by
  have memory : memoryStore.answers .empty calls = Ledger.empty.answers memoryStore.lives calls := by
    apply LifetimeStore.answers_of_empty _ clock
    · exact Ledger.everyGet_of_forall fun _ _ _ _ => trivial
    · intro t key
      rfl
  have redis : (redisStore server keyPrefix).answers db calls =
      Ledger.empty.answers (redisStore server keyPrefix).lives calls :=
    LifetimeStore.answers_of_empty empty clock away
  have since : Ledger.empty.EveryGet
      (fun now entry => ∀ kept ∈ entry, kept.since ≤ now) calls := by
    apply Ledger.everyGet_since clock
    intro key kept found
    contradiction
  rw [memory, redis, Ledger.answers_eq_iff]
  apply (since.and away).iff
  rintro now entry ⟨earlier, apart⟩
  apply forall_congr'
  intro kept
  apply forall_congr'
  intro found
  exact lives_agree_iff (earlier kept found) (apart kept found)

end

theorem caches_agree_within_lifetime :
    memoryStore.answers .empty [(0, .set "k" "v" 60), (59000, .get "k"), (61000, .get "k")] =
        (redisStore referenceRedis "courier_platform:").answers (fun _ => none)
          [(0, .set "k" "v" 60), (59000, .get "k"), (61000, .get "k")] ↔
      ReadsPositiveTtls [(0, .set "k" "v" 60), (59000, .get "k"), (61000, .get "k")] := by
  apply caches_agree_iff
  · intro t key
    rfl
  · decide
  · simp [AwayFromExpiry, Ledger.EveryGet, Ledger.record, Ledger.empty, expiryOf]

/-- The value of a `set` with a lifetime of -1 second, which the memory cache does not serve, is
served by Redis. -/
theorem caches_differ_on_negative_ttl :
    AwayFromExpiry [(0, .set "test:expire" "expired_val" (-1)), (0, .get "test:expire")] ∧
      memoryStore.answers .empty
          [(0, .set "test:expire" "expired_val" (-1)), (0, .get "test:expire")] = [none] ∧
      (redisStore referenceRedis "courier_platform:").answers (fun _ => none)
          [(0, .set "test:expire" "expired_val" (-1)), (0, .get "test:expire")] =
        [some "expired_val"] := by
  refine ⟨?_, ?_, ?_⟩
  · simp [AwayFromExpiry, Ledger.EveryGet, Ledger.record, Ledger.empty, expiryOf]
  · rfl
  · rfl

end CourierPlatform
