import Mathlib.Logic.Function.Basic

/-! The two implementations of `ICacheService`. Times are milliseconds: of `Date.now()` for
the memory cache, of the server's clock for Redis. -/
namespace CourierPlatform

structure CacheItem where
  value : String
  expiresAt : Int

structure MemoryCacheService where
  storage : String → Option CacheItem
  locks : String → Option Int

namespace MemoryCacheService

def empty : MemoryCacheService := ⟨fun _ => none, fun _ => none⟩

def get (cache : MemoryCacheService) (now : Int) (key : String) :
    MemoryCacheService × Option String :=
  match cache.storage key with
  | none => (cache, none)
  | some item =>
    if now > item.expiresAt then
      ({ cache with storage := Function.update cache.storage key none }, none)
    else (cache, some item.value)

def set (cache : MemoryCacheService) (now : Int) (key value : String) (ttlSeconds : Int := 43200) :
    MemoryCacheService :=
  { cache with storage := Function.update cache.storage key (some ⟨value, now + ttlSeconds * 1000⟩) }

def del (cache : MemoryCacheService) (key : String) : MemoryCacheService :=
  { cache with storage := Function.update cache.storage key none }

/-- `existingLockExpiry && now < existingLockExpiry`; an expiry of 0 is falsy. -/
def locked (cache : MemoryCacheService) (now : Int) (lockKey : String) : Bool :=
  (cache.locks lockKey).any fun existingLockExpiry =>
    existingLockExpiry ≠ 0 && now < existingLockExpiry

theorem locked_iff {cache : MemoryCacheService} {now : Int} (lockKey : String) :
    cache.locked now lockKey = true ↔
      ∃ expiry, cache.locks lockKey = some expiry ∧ expiry ≠ 0 ∧ now < expiry := by
  unfold locked
  cases cache.locks lockKey <;> simp

theorem locked_of_later {cache : MemoryCacheService} {now t : Int} {lockKey : String} (since : now ≤ t)
    (taken : cache.locked t lockKey = true) : cache.locked now lockKey = true := by
  obtain ⟨expiry, stored, truthy, before⟩ := (locked_iff lockKey).mp taken
  exact (locked_iff lockKey).mpr ⟨expiry, stored, truthy, by omega⟩

def acquireLock (cache : MemoryCacheService) (now : Int) (lockKey : String)
    (ttlSeconds : Int := 10) : MemoryCacheService × Bool :=
  if cache.locked now lockKey then (cache, false)
  else ({ cache with locks := Function.update cache.locks lockKey (some (now + ttlSeconds * 1000)) },
    true)

def releaseLock (cache : MemoryCacheService) (lockKey : String) : MemoryCacheService :=
  { cache with locks := Function.update cache.locks lockKey none }

end MemoryCacheService

inductive RedisReply where
  | ok
  | nil
  /-- An error reply, such as that to an expire time that is not positive. -/
  | error
deriving DecidableEq

/-- What the platform uses of a Redis server, with the documented effect of each command on
what `GET` replies from then on. At the very instant at which a key expires the reply is left open. -/
structure RedisServer (Db : Type) where
  /-- `GET key` -/
  get : Db → Int → String → Option String
  /-- `SET key value` -/
  set : Db → Int → String → String → Db
  /-- `SET key value EX seconds` -/
  setEx : Db → Int → String → String → Int → Db
  /-- `SET key value EX seconds NX` -/
  setExNx : Db → Int → String → String → Int → Db × RedisReply
  /-- `DEL key` -/
  del : Db → Int → String → Db
  get_set : ∀ db now key value t, now ≤ t → get (set db now key value) t key = some value
  get_setEx : ∀ db now key value seconds t, 0 < seconds → now ≤ t → t < now + seconds * 1000 →
    get (setEx db now key value seconds) t key = some value
  get_setEx_expired : ∀ db now key value seconds t, 0 < seconds → now + seconds * 1000 < t →
    get (setEx db now key value seconds) t key = none
  get_del : ∀ db now key t, now ≤ t → get (del db now key) t key = none
  get_set_of_ne : ∀ db now key value t other, other ≠ key → now ≤ t →
    get (set db now key value) t other = get db t other
  get_setEx_of_ne : ∀ db now key value seconds t other, other ≠ key → now ≤ t →
    get (setEx db now key value seconds) t other = get db t other
  get_del_of_ne : ∀ db now key t other, other ≠ key → now ≤ t →
    get (del db now key) t other = get db t other
  /-- `NX`: a key that does not exist is set as without it. -/
  setExNx_free : ∀ db now key value seconds, 0 < seconds → get db now key = none →
    setExNx db now key value seconds = (setEx db now key value seconds, .ok)
  setExNx_taken : ∀ db now key value seconds, 0 < seconds → (get db now key).isSome →
    setExNx db now key value seconds = (db, .nil)
  setExNx_invalid : ∀ db now key value seconds, seconds ≤ 0 →
    setExNx db now key value seconds = (db, .error)

abbrev RedisTable := String → Option (String × Option Int)

/-- A server that keeps a key up to and including the instant at which it expires. -/
def referenceRedis : RedisServer RedisTable where
  get db now key := (db key).bind fun entry =>
    if entry.2.all fun deadline => now ≤ deadline then some entry.1 else none
  set db _ key value := Function.update db key (some (value, none))
  setEx db now key value seconds := Function.update db key (some (value, some (now + seconds * 1000)))
  setExNx db now key value seconds :=
    if seconds ≤ 0 then (db, .error)
    else if (db key).any fun entry => entry.2.all fun deadline => now ≤ deadline then (db, .nil)
    else (Function.update db key (some (value, some (now + seconds * 1000))), .ok)
  del db _ key := Function.update db key none
  get_set := by
    intro db now key value t since
    simp
  get_setEx := by
    intro db now key value seconds t positive since before
    have lives : t ≤ now + seconds * 1000 := by omega
    simp [lives]
  get_setEx_expired := by
    intro db now key value seconds t positive after
    simp [after]
  get_del := by
    intro db now key t since
    simp
  get_set_of_ne := by
    intro db now key value t other different since
    rw [Function.update_of_ne different]
  get_setEx_of_ne := by
    intro db now key value seconds t other different since
    rw [Function.update_of_ne different]
  get_del_of_ne := by
    intro db now key t other different since
    rw [Function.update_of_ne different]
  setExNx_free := by
    intro db now key value seconds positive free
    cases stored : db key <;> simp_all
  setExNx_taken := by
    intro db now key value seconds positive taken
    cases stored : db key <;> simp_all
  setExNx_invalid := by
    intro db now key value seconds invalid
    rw [if_pos invalid]

/-- How a command that was sent fares. A promise of the client may also reject, whether or not the
server has executed the command. -/
inductive Delivery where
  | replied
  | rejected (executed : Bool)
deriving DecidableEq

structure RedisCacheService where
  keyPrefix : String
  /-- `client` is not `null`. -/
  hasClient : Bool
  isConnected : Bool

namespace RedisCacheService

variable {Db : Type} (server : RedisServer Db)

/-- The key under which the server stores it: the client puts the prefix before each key. -/
def serverKey (service : RedisCacheService) (key : String) : String := service.keyPrefix ++ key

def execute (service : RedisCacheService) (delivery : Delivery) (db db' : Db) : Db :=
  if !service.hasClient || !service.isConnected then db
  else
    match delivery with
    | .replied => db'
    | .rejected executed => if executed then db' else db

def get (service : RedisCacheService) (db : Db) (now : Int) (delivery : Delivery) (key : String) :
    Option String :=
  if !service.hasClient || !service.isConnected then none
  else
    match delivery with
    | .replied => server.get db now (service.serverKey key)
    | .rejected _ => none

def set (service : RedisCacheService) (db : Db) (now : Int) (delivery : Delivery)
    (key value : String) (ttlSeconds : Int := 43200) : Db :=
  service.execute delivery db
    (if ttlSeconds > 0 then server.setEx db now (service.serverKey key) value ttlSeconds
    else server.set db now (service.serverKey key) value)

def del (service : RedisCacheService) (db : Db) (now : Int) (delivery : Delivery) (key : String) :
    Db :=
  service.execute delivery db (server.del db now (service.serverKey key))

def lockKeyOf (lockKey : String) : String := "lock:" ++ lockKey

def acquireLock (service : RedisCacheService) (db : Db) (now : Int) (delivery : Delivery)
    (lockKey : String) (ttlSeconds : Int := 10) : Db × Bool :=
  -- fail-open if Redis is unavailable
  if !service.hasClient || !service.isConnected then (db, true)
  else
    let (db', result) :=
      server.setExNx db now (service.serverKey (lockKeyOf lockKey)) "LOCKED" ttlSeconds
    match delivery with
    -- an error reply rejects the promise, and the `catch` branch answers `true`
    | .replied => (db', result = .ok || result = .error)
    | .rejected executed => (if executed then db' else db, true)

def releaseLock (service : RedisCacheService) (db : Db) (now : Int) (delivery : Delivery)
    (lockKey : String) : Db :=
  service.execute delivery db (server.del db now (service.serverKey (lockKeyOf lockKey)))

end RedisCacheService

/-- One cache that several processes share: a memory cache, or a Redis server that they all
reach under one key prefix. -/
inductive SharedCache (Db : Type) where
  | memory (cache : MemoryCacheService)
  | redis (keyPrefix : String) (db : Db)

/-- How a process's own client stands to Redis when it makes a call, and how its command fares. -/
structure Access where
  hasClient : Bool
  isConnected : Bool
  delivery : Delivery
deriving DecidableEq

namespace Access

def connected : Access := ⟨true, true, .replied⟩

def reaches (access : Access) : Bool := access = connected

def service (access : Access) (keyPrefix : String) : RedisCacheService :=
  ⟨keyPrefix, access.hasClient, access.isConnected⟩

end Access

/-- The first instant at which a lock granted now for `ttlSeconds` has expired. -/
def leaseExpiry (now : Nat) (ttlSeconds : Int) : Nat := (now + ttlSeconds * 1000).toNat

namespace SharedCache

def reachedBy {Db : Type} : SharedCache Db → Access → Bool
  | memory _, _ => true
  | redis _ _, access => access.reaches

variable {Db : Type} (server : RedisServer Db)

def acquireLock (cache : SharedCache Db) (now : Int) (access : Access) (lockKey : String)
    (ttlSeconds : Int := 10) : SharedCache Db × Bool :=
  match cache with
  | memory cache =>
    let (cache', granted) := cache.acquireLock now lockKey ttlSeconds
    (memory cache', granted)
  | redis keyPrefix db =>
    let (db', granted) :=
      (access.service keyPrefix).acquireLock server db now access.delivery lockKey ttlSeconds
    (redis keyPrefix db', granted)

def releaseLock (cache : SharedCache Db) (now : Int) (access : Access) (lockKey : String) :
    SharedCache Db :=
  match cache with
  | memory cache => memory (cache.releaseLock lockKey)
  | redis keyPrefix db =>
    redis keyPrefix ((access.service keyPrefix).releaseLock server db now access.delivery lockKey)

end SharedCache
end CourierPlatform
