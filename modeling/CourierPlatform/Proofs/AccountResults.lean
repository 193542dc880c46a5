import CourierPlatform.Proofs.Logins

/-! What a registration or a login resolves with: the stored user of its email, and a token for that
user. -/
namespace CourierPlatform
open Library AuthService

def AuthService.Grants (config : AuthConfig) (users : UserTable) (email : String)
    (result : AuthResult) : Prop :=
  ∃ user issuedAt, users.find? (config.js.toLowerCase email) = some user ∧
    result = authResult config user issuedAt

def Register.Sound (config : AuthConfig) (users : UserTable) (call : Register) : Prop :=
  ∀ result, call.stage = .resolved result → Grants config users call.data.email result

structure Login.Sound (config : AuthConfig) (users : UserTable) (call : Login) : Prop where
  found : ∀ user, call.stage = .compare user →
    users.find? (config.js.toLowerCase call.data.email) = some user
  result : ∀ result, call.stage = .resolved result → Grants config users call.data.email result

structure Accounts.Sound (config : LoginConfig) (s : Accounts) : Prop where
  registrations : ∀ call ∈ s.registrations.calls,
    call.Sound config.toAuthConfig s.registrations.users
  logins : ∀ call ∈ s.logins, call.Sound config.toAuthConfig s.registrations.users

structure Accounts.Keeps (s t : Accounts) : Prop where
  users : ∀ email user, s.registrations.users.find? email = some user →
    t.registrations.users.find? email = some user
  registrations : ∀ (i : Nat) (call : Register), s.registrations.calls[i]? = some call →
    ∃ call', t.registrations.calls[i]? = some call' ∧ call'.data = call.data ∧
      (call.stage.settled = true → call' = call)
  logins : ∀ (i : Nat) (call : Login), s.logins[i]? = some call →
    ∃ call', t.logins[i]? = some call' ∧ call'.data = call.data ∧
      (call.stage.settled = true → call' = call)

section
variable {config : LoginConfig} {s t u : Accounts} {l : AccountsLabel} {users users' : UserTable}

theorem AuthService.Grants.mono {email : String} {result : AuthResult}
    (h : Grants config.toAuthConfig users email result)
    (kept : ∀ email user, users.find? email = some user → users'.find? email = some user) :
    Grants config.toAuthConfig users' email result := by
  obtain ⟨user, issuedAt, found, same⟩ := h
  exact ⟨user, issuedAt, kept _ user found, same⟩

theorem Login.Sound.mono {call : Login} (h : call.Sound config.toAuthConfig users)
    (kept : ∀ email user, users.find? email = some user → users'.find? email = some user) :
    call.Sound config.toAuthConfig users' :=
  ⟨fun user same => kept _ user (h.found user same), fun result same => (h.result result same).mono kept⟩

theorem AuthService.step_grants {config : AuthConfig} {data : RegisterRequest}
    {stage stage' : RegisterStage} {answer : RegisterAnswer}
    (h : step config users data stage answer = some (users', stage')) :
    (∀ email user, users.find? email = some user → users'.find? email = some user) ∧
      stage.settled = false ∧
      ∀ result, stage' = .resolved result → Grants config users' data.email result := by
  cases Stores.of_step h with
  | keeps _ waits fails hashed =>
    refine ⟨fun _ _ found => found, ?_, fun result same => ?_⟩
    · cases stage with
      | resolved result => contradiction
      | rejected error => cases answer <;> contradiction
      | _ => rfl
    · rw [same] at fails
      contradiction
  | @inserts passwordHash id _ result inserted =>
    have read := UniqueTable.find?_insert? inserted
    have free := UniqueTable.find?_of_insert? inserted
    refine ⟨fun email user found => ?_, rfl, ?_⟩
    · rw [read, if_neg, found]
      rintro rfl
      rw [free] at found
      contradiction
    · rintro _ ⟨⟩
      cases answer with
      | created fresh issuedAt =>
        rw [step] at h
        split at h
        · contradiction
        · split at h
          next after stored =>
            cases h
            exact ⟨_, issuedAt, by rw [UniqueTable.find?_insert? stored]; exact if_pos rfl, rfl⟩
          next => cases h
      | dbError error => cases h
      | _ => contradiction

theorem AuthService.loginStep_sound {call : Login} {answer : LoginAnswer} {stage : LoginStage}
    (h : call.Sound config.toAuthConfig users)
    (stepped : loginStep config users call.data call.stage answer = some stage) :
    call.stage.settled = false ∧ Login.Sound config.toAuthConfig users ⟨call.data, stage⟩ := by
  obtain ⟨data, before⟩ := call
  cases before with
  | findOne =>
    cases answer with
    | found =>
      cases stepped
      refine ⟨rfl, fun user same => ?_, fun result same => ?_⟩ <;>
        cases known : users.find? (config.js.toLowerCase data.email) <;> rw [known] at same <;>
        cases same
      rfl
    | dbError error =>
      cases stepped
      exact ⟨rfl, fun _ same => (nomatch same), fun _ same => nomatch same⟩
    | _ => contradiction
  | compare user =>
    cases answer with
    | compared issuedAt =>
      cases stepped
      refine ⟨rfl, fun user' same => ?_, fun result same => ?_⟩
      · change afterCompare config data user issuedAt = _ at same
        unfold afterCompare at same
        split at same <;> contradiction
      · change afterCompare config data user issuedAt = _ at same
        unfold afterCompare at same
        split at same
        · cases same
          exact ⟨user, issuedAt, h.found user rfl, rfl⟩
        · contradiction
    | _ => contradiction
  | resolved result => cases answer <;> contradiction
  | rejected error => cases answer <;> contradiction

/-! ## The accounts -/

namespace Accounts

theorem Keeps.refl (s : Accounts) : s.Keeps s :=
  ⟨fun _ _ found => found, fun _ call here => ⟨call, here, rfl, fun _ => rfl⟩,
    fun _ call here => ⟨call, here, rfl, fun _ => rfl⟩⟩

theorem Keeps.trans (first : s.Keeps t) (second : t.Keeps u) : s.Keeps u := by
  refine ⟨fun email user found => second.users email user (first.users email user found),
    fun i call here => ?_, fun i call here => ?_⟩
  · obtain ⟨middle, there, data, settled⟩ := first.registrations i call here
    obtain ⟨last, found, data', settled'⟩ := second.registrations i middle there
    refine ⟨last, found, data'.trans data, fun ended => ?_⟩
    have same := settled ended
    exact (settled' (same ▸ ended)).trans same
  · obtain ⟨middle, there, data, settled⟩ := first.logins i call here
    obtain ⟨last, found, data', settled'⟩ := second.logins i middle there
    refine ⟨last, found, data'.trans data, fun ended => ?_⟩
    have same := settled ended
    exact (settled' (same ▸ ended)).trans same

theorem Sound.init (config : LoginConfig) : Sound config init :=
  ⟨fun _ mem => absurd mem List.not_mem_nil, fun _ mem => absurd mem List.not_mem_nil⟩

theorem Sound.next (h : s.Sound config) (moved : (accounts config).next s l = some t) :
    t.Sound config ∧ s.Keeps t := by
  cases Moves.of_next moved with
  | @registrations l registrations registered =>
    cases l with
    | register data =>
      cases registered
      refine ⟨⟨fun call mem => ?_, h.logins⟩, fun _ _ found => found, fun i call here => ?_,
        (Keeps.refl s).logins⟩
      · rcases List.mem_append.mp mem with earlier | new
        · exact h.registrations call earlier
        · rw [List.mem_singleton.mp new]
          exact fun result same => nomatch same
      · have inside := (List.getElem?_eq_some_iff.mp here).1
        exact ⟨call, (List.getElem?_append_left inside).trans here, rfl, fun _ => rfl⟩
    | settle i answer =>
      obtain ⟨⟨data, stage⟩, awaiting, rest⟩ := Option.bind_eq_some_iff.mp registered
      obtain ⟨⟨users', stage'⟩, stepped, same⟩ := Option.bind_eq_some_iff.mp rest
      cases same
      obtain ⟨kept, unsettled, granted⟩ := step_grants stepped
      refine ⟨⟨fun call mem => ?_, fun call mem => (h.logins call mem).mono kept⟩, kept,
        fun j call here => ?_, (Keeps.refl s).logins⟩
      · rcases List.mem_or_eq_of_mem_set mem with earlier | rfl
        · exact fun result same => AuthService.Grants.mono (h.registrations call earlier result same) kept
        · exact granted
      · by_cases own : i = j
        · subst own
          cases awaiting.symm.trans here
          exact ⟨⟨data, stage'⟩, getElem?_set_of_some here, rfl, fun ended => by
            rw [unsettled] at ended
            contradiction⟩
        · exact ⟨call, (List.getElem?_set_ne own).trans here, rfl, fun _ => rfl⟩
  | asked data =>
    refine ⟨⟨h.registrations, fun call mem => ?_⟩, fun _ _ found => found,
      (Keeps.refl s).registrations, fun i call here => ?_⟩
    · rcases List.mem_append.mp mem with earlier | new
      · exact h.logins call earlier
      · rw [List.mem_singleton.mp new]
        exact ⟨fun _ same => (nomatch same), fun _ same => nomatch same⟩
    · have inside := (List.getElem?_eq_some_iff.mp here).1
      exact ⟨call, (List.getElem?_append_left inside).trans here, rfl, fun _ => rfl⟩
  | @settled i call answer stage awaiting stepped =>
    obtain ⟨unsettled, sound⟩ := loginStep_sound (h.logins call (List.mem_of_getElem? awaiting)) stepped
    refine ⟨⟨h.registrations, fun call' mem => ?_⟩, fun _ _ found => found,
      (Keeps.refl s).registrations, fun j call' here => ?_⟩
    · rcases List.mem_or_eq_of_mem_set mem with earlier | rfl
      · exact h.logins call' earlier
      · exact sound
    · by_cases own : i = j
      · subst own
        cases awaiting.symm.trans here
        exact ⟨⟨call.data, stage⟩, getElem?_set_of_some here, rfl, fun ended => by
          rw [unsettled] at ended
          contradiction⟩
      · exact ⟨call', (List.getElem?_set_ne own).trans here, rfl, fun _ => rfl⟩

end Accounts
end
end CourierPlatform
