import CourierPlatform.Model.Login
import CourierPlatform.Proofs.Registration

/-! Which password logs in. The table holds one hash for each registered email; bcrypt reads the first 72
bytes of a password, and the schema admits longer ones. -/
namespace CourierPlatform
open Library AuthService

def utf8Bytes (text : String) : List UInt8 := text.toList.flatMap String.utf8EncodeChar

def bcryptBytes (password : String) : List UInt8 := (utf8Bytes password).take 72

/-- A password is accepted against the hash of another, whatever the salt, if bcrypt reads the same of
both. -/
def LoginConfig.ComparesBytes (config : LoginConfig) : Prop :=
  ∀ password other salt, config.compare password (config.hash other salt) = true ↔
    bcryptBytes password = bcryptBytes other

def Registrations.HasPassword (config : AuthConfig) (email : String) (s : Registrations)
    (password : String) : Prop :=
  ∃ call ∈ s.calls, call.succeeded config (config.js.toLowerCase email) = true ∧
    call.data.password = password

abbrev Accounts.Reachable (config : LoginConfig) (s : Accounts) : Prop :=
  (accounts config).Reaches (fun _ l => l.valid config.formats = true) .init s

/-- A login looks its user up in one state of a run and has settled in another. -/
structure LoginRun (config : LoginConfig) (i : Nat) (data : LoginRequest) (s u : Accounts) (call : Login) :
    Prop where
  before : s.Reachable config
  asked : s.logins[i]? = some ⟨data, .findOne⟩
  looked : ∃ t, (accounts config).next s (.settle i .found) = some t ∧
    (accounts config).Reaches (fun _ l => l.valid config.formats = true) t u
  ended : u.logins[i]? = some call
  settled : call.stage.settled = true

theorem utf8Bytes_injective : Function.Injective utf8Bytes := by
  intro text other same
  have encoded : text.toList.utf8Encode = other.toList.utf8Encode := congrArg List.toByteArray same
  rw [String.utf8Encode_toList, String.utf8Encode_toList] at encoded
  exact String.toByteArray_inj.mp encoded

theorem eq_of_bcryptBytes {password other : String} (short : (utf8Bytes password).length ≤ 72)
    (short' : (utf8Bytes other).length ≤ 72) (same : bcryptBytes password = bcryptBytes other) :
    password = other := by
  unfold bcryptBytes at same
  rw [List.take_of_length_le short, List.take_of_length_le short'] at same
  exact utf8Bytes_injective same

section
variable {config : AuthConfig} {email : String} {s t : Registrations} {l : RegistrationsLabel}
  {users users' : UserTable} {data : RegisterRequest} {stage stage' : RegisterStage}
  {answer : RegisterAnswer}

/-! ## What the table says of the registrations -/

namespace AuthService

def Hashed (config : AuthConfig) (data : RegisterRequest) (stage : RegisterStage) : Prop :=
  ∀ passwordHash, stage = .create passwordHash → ∃ salt, passwordHash = config.hash data.password salt

inductive Stores (config : AuthConfig) (users : UserTable) (data : RegisterRequest) :
    RegisterStage → UserTable → RegisterStage → Prop where
  | keeps (stage : RegisterStage) {stage' : RegisterStage} (waits : stage.isResolved = false)
      (fails : stage'.isResolved = false) (hashed : Hashed config data stage') :
      Stores config users data stage users stage'
  | inserts {passwordHash id : String} {after : UserTable} (result : AuthResult)
      (inserted : users.insert? (newUser config data id passwordHash) = some after) :
      Stores config users data (.create passwordHash) after (.resolved result)

theorem Stores.of_step (h : step config users data stage answer = some (users', stage')) :
    Stores config users data stage users' stage' := by
  have none (error : Thrown) : Hashed config data (.rejected error) := by
    intro passwordHash same
    contradiction
  by_cases failed : ∃ error, answer = .dbError error
  · obtain ⟨error, rfl⟩ := failed
    cases stage with
    | findOne => cases h; exact .keeps _ rfl rfl (none error)
    | create passwordHash => cases h; exact .keeps _ rfl rfl (none error)
    | _ => contradiction
  · cases Moves.of_step h fun error same => failed ⟨error, same⟩ with
    | known found message => exact .keeps _ rfl rfl (none _)
    | hashed =>
      refine .keeps _ rfl rfl fun passwordHash same => ?_
      exact ⟨_, (RegisterStage.create.inj same).symm⟩
    | inserted result inserted => exact .inserts result inserted
    | duplicate taken => exact .keeps _ rfl rfl (none _)
    | _ =>
      refine .keeps _ rfl rfl fun passwordHash same => ?_
      contradiction

end AuthService

namespace Registrations

/-- For each email there is a user if a call has succeeded, and then only one has; the user's hash is of
the call's password. -/
structure Credentials (config : AuthConfig) (s : Registrations) : Prop where
  one : ∀ email, s.calls.countP (Register.succeeded config email) = (s.users.find? email).isSome.toNat
  hashed : ∀ call ∈ s.calls, Hashed config call.data call.stage
  stored : ∀ call ∈ s.calls, call.stage.isResolved = true →
    ∃ user salt, s.users.find? (config.js.toLowerCase call.data.email) = some user ∧
      user.passwordHash = config.hash call.data.password salt

theorem Credentials.start (config : AuthConfig) : Credentials config ⟨.empty, []⟩ where
  one _ := rfl
  hashed _ mem := absurd mem List.not_mem_nil
  stored _ mem := absurd mem List.not_mem_nil

theorem Credentials.begin (h : s.Credentials config) (data : RegisterRequest) :
    Credentials config ⟨s.users, s.calls ++ [⟨data, .findOne⟩]⟩ where
  one email := (Register.countP_begin s.calls data).trans (h.one email)
  hashed call mem := by
    rcases List.mem_append.mp mem with earlier | new
    · exact h.hashed call earlier
    · intro passwordHash same
      rw [List.mem_singleton.mp new] at same
      contradiction
  stored call mem resolved := by
    rcases List.mem_append.mp mem with earlier | new
    · exact h.stored call earlier resolved
    · rw [List.mem_singleton.mp new] at resolved
      contradiction

theorem Credentials.kept {i : Nat} (h : s.Credentials config)
    (awaiting : s.calls[i]? = some ⟨data, stage⟩) (waits : stage.isResolved = false)
    (fails : stage'.isResolved = false) (hashed : Hashed config data stage') :
    Credentials config ⟨s.users, s.calls.set i ⟨data, stage'⟩⟩ where
  one email := by
    have count := countP_set_add (p := Register.succeeded config email) ⟨data, stage'⟩ awaiting
    simp only [Register.succeeded, waits, fails, Bool.and_false, Bool.toNat_false] at count
    exact count.trans (h.one email)
  hashed call mem := by
    rcases List.mem_or_eq_of_mem_set mem with earlier | rfl
    · exact h.hashed call earlier
    · exact hashed
  stored call mem resolved := by
    rcases List.mem_or_eq_of_mem_set mem with earlier | rfl
    · exact h.stored call earlier resolved
    · rw [fails] at resolved
      contradiction

theorem Credentials.inserted {i : Nat} {passwordHash id : String} (h : s.Credentials config)
    (awaiting : s.calls[i]? = some ⟨data, .create passwordHash⟩) (result : AuthResult)
    (inserted : s.users.insert? (newUser config data id passwordHash) = some users') :
    Credentials config ⟨users', s.calls.set i ⟨data, .resolved result⟩⟩ := by
  have free := UniqueTable.find?_of_insert? inserted
  have read := UniqueTable.find?_insert? inserted
  refine ⟨fun email => ?_, fun call mem => ?_, fun call mem resolved => ?_⟩
  · have count := countP_set_add (p := Register.succeeded config email) ⟨data, .resolved result⟩ awaiting
    have before := h.one email
    rw [read]
    by_cases mine : config.js.toLowerCase data.email = email
    · have unknown : s.users.find? email = none := mine ▸ free
      rw [unknown] at before
      rw [if_pos (show User.email (newUser config data id passwordHash) = email from mine)]
      simp only [Register.succeeded, Register.on, mine, RegisterStage.isResolved, decide_true,
        Bool.and_false, Bool.and_true, Bool.toNat_true, Bool.toNat_false] at count before ⊢
      exact count.trans (congrArg Nat.succ before)
    · rw [if_neg (show ¬ User.email (newUser config data id passwordHash) = email from mine)]
      simp only [Register.succeeded, Register.on, mine, decide_false, Bool.false_and,
        Bool.toNat_false] at count
      exact count.trans before
  · rcases List.mem_or_eq_of_mem_set mem with earlier | rfl
    · exact h.hashed call earlier
    · intro other same
      contradiction
  · rcases List.mem_or_eq_of_mem_set mem with earlier | rfl
    · obtain ⟨user, salt, found, stored⟩ := h.stored call earlier resolved
      refine ⟨user, salt, ?_, stored⟩
      rw [read, if_neg, found]
      intro same
      rw [same, found] at free
      contradiction
    · obtain ⟨salt, hash⟩ := h.hashed _ (List.mem_of_getElem? awaiting) passwordHash rfl
      refine ⟨newUser config data id passwordHash, salt, ?_, hash⟩
      rw [read]
      exact if_pos rfl

theorem Credentials.settle {i : Nat} (h : s.Credentials config)
    (awaiting : s.calls[i]? = some ⟨data, stage⟩)
    (stores : Stores config s.users data stage users' stage') :
    Credentials config ⟨users', s.calls.set i ⟨data, stage'⟩⟩ := by
  cases stores with
  | keeps _ waits fails hashed => exact h.kept awaiting waits fails hashed
  | inserts result inserted => exact h.inserted awaiting result inserted

theorem Credentials.next (h : s.Credentials config) (moved : s.next config l = some t) :
    t.Credentials config := by
  cases l with
  | register data =>
    cases moved
    exact h.begin data
  | settle i answer =>
    obtain ⟨⟨data, stage⟩, awaiting, rest⟩ := Option.bind_eq_some_iff.mp moved
    obtain ⟨⟨users', stage'⟩, stepped, same⟩ := Option.bind_eq_some_iff.mp rest
    cases same
    exact h.settle awaiting (.of_step stepped)

theorem Credentials.hasPassword {user : User} (h : s.Credentials config)
    (found : s.users.find? (config.js.toLowerCase email) = some user) :
    ∃ password salt, user.passwordHash = config.hash password salt ∧
      ∀ other, s.HasPassword config email other ↔ other = password := by
  have once : s.calls.countP (Register.succeeded config (config.js.toLowerCase email)) = 1 := by
    rw [h.one, found]
    rfl
  obtain ⟨call, mem, succeeded⟩ := List.countP_pos_iff.mp (once ▸ Nat.one_pos)
  obtain ⟨asks, resolved⟩ := Bool.and_eq_true_iff.mp succeeded
  obtain ⟨same, salt, read, hash⟩ := h.stored call mem resolved
  have lower : config.js.toLowerCase call.data.email = config.js.toLowerCase email :=
    of_decide_eq_true asks
  rw [lower, found] at read
  cases read
  refine ⟨call.data.password, salt, hash, fun other => ⟨?_, ?_⟩⟩
  · rintro ⟨call', mem', succeeded', rfl⟩
    rw [eq_of_countP_one once mem' mem succeeded' succeeded]
  · rintro rfl
    exact ⟨call, mem, succeeded, rfl⟩

theorem Credentials.not_hasPassword {password : String} (h : s.Credentials config)
    (unknown : s.users.find? (config.js.toLowerCase email) = none) :
    ¬ s.HasPassword config email password := by
  rintro ⟨call, mem, succeeded, -⟩
  have none := h.one (config.js.toLowerCase email)
  rw [unknown] at none
  exact List.countP_eq_zero.mp none call mem succeeded

theorem Credentials.hasPassword_unique {password other : String} (h : s.Credentials config)
    (registered : s.HasPassword config email password) (again : s.HasPassword config email other) :
    password = other := by
  cases found : s.users.find? (config.js.toLowerCase email) with
  | none => exact absurd registered (h.not_hasPassword found)
  | some user =>
    obtain ⟨own, -, -, only⟩ := h.hasPassword found
    rw [(only password).mp registered, (only other).mp again]

end Registrations
end

/-! ## A login -/

section
variable {config : LoginConfig} {s t u : Accounts} {l : AccountsLabel} {i : Nat} {data : LoginRequest}
  {found : Option User} {stage stage' : LoginStage} {answer : LoginAnswer}

inductive Accounts.Moves (config : LoginConfig) (s : Accounts) : AccountsLabel → Accounts → Prop where
  | registrations {l : RegistrationsLabel} {registrations : Registrations}
      (moved : s.registrations.next config.toAuthConfig l = some registrations) :
      Moves config s (.registrations l) ⟨registrations, s.logins⟩
  | asked (data : LoginRequest) :
      Moves config s (.login data) ⟨s.registrations, s.logins ++ [⟨data, .findOne⟩]⟩
  | settled {i : Nat} {call : Login} {answer : LoginAnswer} {stage : LoginStage}
      (awaiting : s.logins[i]? = some call)
      (stepped : loginStep config s.registrations.users call.data call.stage answer = some stage) :
      Moves config s (.settle i answer) ⟨s.registrations, s.logins.set i ⟨call.data, stage⟩⟩

theorem Accounts.Moves.of_next (h : (accounts config).next s l = some t) : Moves config s l t := by
  change s.next config l = some t at h
  cases l with
  | registrations l =>
    obtain ⟨registrations, moved, same⟩ := Option.map_eq_some_iff.mp h
    cases same
    exact .registrations moved
  | login data => cases h; exact .asked data
  | settle i answer =>
    obtain ⟨call, awaiting, rest⟩ := Option.bind_eq_some_iff.mp h
    obtain ⟨stage, stepped, same⟩ := Option.bind_eq_some_iff.mp rest
    cases same
    exact .settled awaiting stepped

theorem Accounts.credentials {allowed : Accounts → AccountsLabel → Prop}
    (reach : (accounts config).Reaches allowed .init s) :
    s.registrations.Credentials config.toAuthConfig := by
  refine reach.invariant (fun s => s.registrations.Credentials config.toAuthConfig) (.start _) ?_
  intro a l b inv _ moved
  cases Moves.of_next moved with
  | registrations registered => exact inv.next registered
  | asked data => exact inv
  | settled awaiting stepped => exact inv

inductive LoginStage.After (config : LoginConfig) (data : LoginRequest) (found : Option User) :
    LoginStage → Prop where
  | looked : After config data found (afterFindUser found)
  | compared {user : User} (known : found = some user) (issuedAt : Int) :
      After config data found (afterCompare config data user issuedAt)

theorem LoginStage.After.step {users : UserTable} (h : stage.After config data found)
    (stepped : loginStep config users data stage answer = some stage') :
    stage'.After config data found := by
  cases h with
  | looked =>
    cases found with
    | none => cases answer <;> contradiction
    | some user =>
      cases answer with
      | compared issuedAt => cases stepped; exact .compared rfl issuedAt
      | _ => contradiction
  | compared known issuedAt =>
    unfold afterCompare at stepped
    split at stepped <;> cases answer <;> contradiction

theorem LoginStage.After.resolved_iff (h : stage.After config data found) (ended : stage.settled = true) :
    stage.isResolved = true ↔
      ∃ user, found = some user ∧ config.compare data.password user.passwordHash = true := by
  cases h with
  | looked =>
    cases found with
    | none => simp [afterFindUser, LoginStage.isResolved]
    | some user => contradiction
  | compared known issuedAt =>
    unfold afterCompare
    split
    next accepted => simp [LoginStage.isResolved, known, accepted]
    next refused => simp [LoginStage.isResolved, known, refused]

theorem Accounts.Moves.after (moves : Moves config s l t)
    (here : ∃ stage, s.logins[i]? = some ⟨data, stage⟩ ∧ stage.After config data found) :
    ∃ stage, t.logins[i]? = some ⟨data, stage⟩ ∧ stage.After config data found := by
  obtain ⟨stage, asked, after⟩ := here
  cases moves with
  | registrations moved => exact ⟨stage, asked, after⟩
  | asked data => exact ⟨stage, getElem?_append_of_some asked, after⟩
  | @settled j call answer stage' awaiting stepped =>
    by_cases mine : j = i
    · subst mine
      cases asked.symm.trans awaiting
      exact ⟨stage', getElem?_set_of_some awaiting, after.step stepped⟩
    · exact ⟨stage, (List.getElem?_set_ne mine).trans asked, after⟩

namespace LoginRun

variable {call : Login}

theorem resolved_iff (run : LoginRun config i data s u call) :
    call.stage.isResolved = true ↔
      ∃ user, s.registrations.users.find? (config.js.toLowerCase data.email) = some user ∧
        config.compare data.password user.passwordHash = true := by
  obtain ⟨t, looked, later⟩ := run.looked
  cases Accounts.Moves.of_next looked with
  | settled awaiting stepped =>
    cases run.asked.symm.trans awaiting
    cases stepped
    obtain ⟨stage, there, after⟩ := later.invariant _ ⟨_, getElem?_set_of_some run.asked, .looked⟩
      fun _ _ _ inv _ moved => (Accounts.Moves.of_next moved).after inv
    cases run.ended.symm.trans there
    exact after.resolved_iff run.settled

theorem resolved_iff_bytes (compares : config.ComparesBytes) (run : LoginRun config i data s u call) :
    call.stage.isResolved = true ↔
      ∃ password, s.registrations.HasPassword config.toAuthConfig data.email password ∧
        bcryptBytes data.password = bcryptBytes password := by
  have credentials := Accounts.credentials run.before
  rw [run.resolved_iff]
  cases found : s.registrations.users.find? (config.js.toLowerCase data.email) with
  | none =>
    have never (password : String) :
        ¬ s.registrations.HasPassword config.toAuthConfig data.email password :=
      credentials.not_hasPassword found
    simp [never]
  | some user =>
    obtain ⟨password, salt, hash, only⟩ := credentials.hasPassword found
    simp [hash, compares data.password password salt, only]

/-- If bcrypt reads all of both, only the registered password logs in. -/
theorem resolved_iff_of_short (compares : config.ComparesBytes) (run : LoginRun config i data s u call)
    (short : (utf8Bytes data.password).length ≤ 72)
    (others : ∀ password, s.registrations.HasPassword config.toAuthConfig data.email password →
      (utf8Bytes password).length ≤ 72) :
    call.stage.isResolved = true ↔
      s.registrations.HasPassword config.toAuthConfig data.email data.password := by
  rw [run.resolved_iff_bytes compares]
  constructor
  · rintro ⟨password, registered, same⟩
    rwa [eq_of_bcryptBytes short (others password registered) same]
  · intro registered
    exact ⟨data.password, registered, rfl⟩

end LoginRun

/-- A login succeeds for the registered password and no other exactly if the email was not registered with
another password of which bcrypt reads the same. -/
theorem login_iff_registered_iff {call : Login} (compares : config.ComparesBytes)
    (run : LoginRun config i data s u call) :
    (call.stage.isResolved = true ↔
        s.registrations.HasPassword config.toAuthConfig data.email data.password) ↔
      ∀ other, s.registrations.HasPassword config.toAuthConfig data.email other →
        bcryptBytes other = bcryptBytes data.password → other = data.password := by
  rw [run.resolved_iff_bytes compares]
  constructor
  · intro exactly other registered same
    have own := exactly.mp ⟨other, registered, same.symm⟩
    exact (Accounts.credentials run.before).hasPassword_unique registered own
  · intro told
    constructor
    · rintro ⟨other, registered, same⟩
      rwa [← told other registered same.symm]
    · intro own
      exact ⟨data.password, own, rfl⟩

theorem exists_loginRun (config : LoginConfig) (data : RegisterRequest) (password : String)
    (valid : registerSchema config.formats data = true)
    (valid' : loginSchema config.formats ⟨data.email, password⟩ = true) :
    ∃ s u call, LoginRun config 0 ⟨data.email, password⟩ s u call ∧
      ∀ other, s.registrations.HasPassword config.toAuthConfig data.email other ↔ data.password = other := by
  let user := newUser config.toAuthConfig data "U-1" (config.hash data.password "salt")
  let registered : Registrations :=
    ⟨.insertIgnore .empty user, [⟨data, .resolved (authResult config.toAuthConfig user 0)⟩]⟩
  have found : registered.users.find? (config.js.toLowerCase data.email) = some user := by
    simp [registered, UniqueTable.find?_insertIgnore, user, newUser]
  have begun : Accounts.Reachable config ⟨⟨.empty, [⟨data, .findOne⟩]⟩, []⟩ :=
    Machine.Reaches.refl.step (AccountsLabel.registrations (.register data)) valid rfl
  have unknown : Accounts.Reachable config ⟨⟨.empty, [⟨data, .genSalt⟩]⟩, []⟩ :=
    begun.step (.registrations (.settle 0 .found)) rfl rfl
  have salted : Accounts.Reachable config ⟨⟨.empty, [⟨data, .hash "salt"⟩]⟩, []⟩ :=
    unknown.step (.registrations (.settle 0 (.salted "salt"))) rfl rfl
  have hashed : Accounts.Reachable config
      ⟨⟨.empty, [⟨data, .create (config.hash data.password "salt")⟩]⟩, []⟩ :=
    salted.step (.registrations (.settle 0 .hashed)) rfl rfl
  have signedUp : Accounts.Reachable config ⟨registered, []⟩ :=
    hashed.step (.registrations (.settle 0 (.created "U-1" 0))) rfl rfl
  have asked : Accounts.Reachable config ⟨registered, [⟨⟨data.email, password⟩, .findOne⟩]⟩ :=
    signedUp.step (.login ⟨data.email, password⟩) valid' rfl
  refine ⟨_, ⟨registered, [⟨⟨data.email, password⟩, afterCompare config ⟨data.email, password⟩ user 0⟩]⟩, _,
    ⟨asked, rfl, ⟨⟨registered, [⟨⟨data.email, password⟩, .compare user⟩]⟩, ?_, ?_⟩, rfl, ?_⟩, ?_⟩
  · simp [accounts, Accounts.next, loginStep, found, afterFindUser]
  · exact Machine.Reaches.refl.step (.settle 0 (.compared 0)) rfl rfl
  · unfold afterCompare
    split <;> rfl
  · intro other
    simp [Registrations.HasPassword, registered, Register.succeeded, Register.on, RegisterStage.isResolved]

end

namespace Accounts

/-- What a hash keeps of a password, in characters beyond the one that ends it. -/
def hashMarks (password : String) : List Char :=
  (bcryptBytes password).map fun byte => Char.ofNat (byte.toNat + 256)

def plainLogins : LoginConfig where
  js := .ascii
  hash password salt := String.ofList (hashMarks password ++ '$' :: salt.toList)
  sign payload _ := payload.userId
  expiresIn := "24h"
  compare password passwordHash := passwordHash.toList.takeWhile (· ≠ '$') = hashMarks password
  formats := ⟨fun text => JsText.includes text "@", fun _ => true⟩

theorem toNat_mark (byte : UInt8) : (Char.ofNat (byte.toNat + 256)).toNat = byte.toNat + 256 := by
  have bound := byte.toNat_lt
  rw [Char.ofNat, dif_pos (.inl (by omega))]
  rfl

theorem plainLogins_comparesBytes : plainLogins.ComparesBytes := by
  intro password other salt
  have marked : ∀ c ∈ hashMarks other, decide (c ≠ '$') = true := by
    intro c mem
    obtain ⟨byte, -, rfl⟩ := List.mem_map.mp mem
    refine decide_eq_true fun same => ?_
    have number := congrArg Char.toNat same
    rw [toNat_mark] at number
    change byte.toNat + 256 = 36 at number
    omega
  have distinct (byte other : UInt8)
      (same : Char.ofNat (byte.toNat + 256) = Char.ofNat (other.toNat + 256)) : byte = other := by
    have number := congrArg Char.toNat same
    rw [toNat_mark, toNat_mark] at number
    exact UInt8.toNat_inj.mp (by omega)
  simp only [plainLogins, String.toList_ofList, decide_eq_true_eq]
  rw [List.takeWhile_append_of_pos marked, List.takeWhile_cons_of_neg (by decide), List.append_nil,
    hashMarks, hashMarks, List.map_inj_right distinct]
  exact eq_comm

def longPassword (last : Char) : String := String.ofList (List.replicate 72 'a' ++ [last])

theorem bcryptBytes_longPassword (last : Char) :
    bcryptBytes (longPassword last) = (List.replicate 72 'a').flatMap String.utf8EncodeChar := by
  have size : ((List.replicate 72 'a').flatMap String.utf8EncodeChar).length = 72 := by decide
  rw [bcryptBytes, utf8Bytes, longPassword, String.toList_ofList, List.flatMap_append]
  exact List.take_left' size

end Accounts

open Accounts

theorem login_iff_registered_short : ∃ s u call,
    LoginRun plainLogins 0 ⟨"ann@acme.io", "secret"⟩ s u call ∧ call.stage.isResolved = true := by
  obtain ⟨s, u, call, run, registered⟩ := exists_loginRun plainLogins
    ⟨"ann@acme.io", "secret", none⟩ "secret" rfl rfl
  have only : ∀ other, s.registrations.HasPassword plainLogins.toAuthConfig "ann@acme.io" other →
      bcryptBytes other = bcryptBytes "secret" → other = "secret" :=
    fun other has _ => ((registered other).mp has).symm
  exact ⟨s, u, call, run, ((login_iff_registered_iff plainLogins_comparesBytes run).mpr only).mpr
    ((registered "secret").mpr rfl)⟩

/-- A password that differs from the registered one in its last character logs in. -/
theorem long_password_logs_in :
    ¬ ∀ (config : LoginConfig) (i : Nat) (data : LoginRequest) (s u : Accounts) (call : Login),
      config.ComparesBytes → LoginRun config i data s u call →
      (call.stage.isResolved = true ↔
        s.registrations.HasPassword config.toAuthConfig data.email data.password) := by
  intro claim
  obtain ⟨s, u, call, run, registered⟩ := exists_loginRun plainLogins
    ⟨"ann@acme.io", longPassword 'b', none⟩ (longPassword 'c') (by decide) (by decide)
  have accepted := (run.resolved_iff_bytes plainLogins_comparesBytes).mpr
    ⟨longPassword 'b', (registered _).mpr rfl,
      (bcryptBytes_longPassword 'c').trans (bcryptBytes_longPassword 'b').symm⟩
  have same := (registered _).mp ((claim _ _ _ s u call plainLogins_comparesBytes run).mp accepted)
  exact absurd (String.ofList_injective same) (by decide)

end CourierPlatform
