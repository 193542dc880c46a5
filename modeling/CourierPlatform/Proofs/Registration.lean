import CourierPlatform.Library.Lists
import CourierPlatform.Model.AuthService
import CourierPlatform.Model.ErrorHandler

/-! Registrations under one email. The index lets one of them in; the others are told so by the lookup,
or by the index when they have looked too early. -/
namespace CourierPlatform
open Library AuthService

def Register.on (config : AuthConfig) (email : String) (call : Register) : Bool :=
  config.js.toLowerCase call.data.email = email

def RegisterStage.isResolved : RegisterStage → Bool
  | resolved _ => true
  | _ => false

def Register.succeeded (config : AuthConfig) (email : String) (call : Register) : Bool :=
  call.on config email && call.stage.isResolved

namespace Registrations

def faultless : RegistrationsLabel → Bool
  | .settle _ (.dbError _) => false
  | _ => true

/-- The call that is about to insert the email although a user has it. -/
def late? (config : AuthConfig) (email : String) (s : Registrations) :
    RegistrationsLabel → Option Nat
  | .settle i (.created ..) =>
    match s.calls[i]? with
    | some call =>
      match call.stage with
      | .create _ => if call.on config email && (s.users.find? email).isSome then some i else none
      | _ => none
    | none => none
  | _ => none

def noteLate (config : AuthConfig) (email : String) (s : Registrations) (l : RegistrationsLabel)
    (_ : Registrations) (late : List Nat) : List Nat :=
  late ++ (s.late? config email l).toList

structure RegisteredOnce (config : AuthConfig) (traits : ErrorTraits) (email : String)
    (s : Registrations) : Prop where
  one : s.calls.countP (Register.succeeded config email) = 1
  row : s.users.rows.countP (·.email = email) = 1
  others : ∀ call ∈ s.calls, call.on config email = true → ∀ error, call.stage = .rejected error →
    (resolveErrorInfo traits error).statusCode = 409 ∧
      (resolveErrorInfo traits error).errorCode = ErrorCode.conflict.text

end Registrations

section
variable {config : AuthConfig} {traits : ErrorTraits} {email : String} {s t : Registrations}
  {l : RegistrationsLabel} {late : List Nat} {users users' : UserTable} {data : RegisterRequest}
  {stage stage' : RegisterStage} {answer : RegisterAnswer}

namespace AuthService

inductive Moves (config : AuthConfig) (users : UserTable) (data : RegisterRequest) :
    RegisterStage → RegisterAnswer → UserTable → RegisterStage → Prop where
  | known {user} (found : users.find? (config.js.toLowerCase data.email) = some user)
      (message : String) :
      Moves config users data .findOne .found users (.rejected (conflictError message .conflict))
  | unknown : Moves config users data .findOne .found users .genSalt
  | salted {salt} : Moves config users data .genSalt (.salted salt) users (.hash salt)
  | hashed {salt} : Moves config users data (.hash salt) .hashed users
      (.create (config.hash data.password salt))
  | inserted {passwordHash id issuedAt after} (result : AuthResult)
      (inserted : users.insert? (newUser config data id passwordHash) = some after) :
      Moves config users data (.create passwordHash) (.created id issuedAt) after (.resolved result)
  | duplicate {passwordHash id issuedAt}
      (taken : (users.find? (config.js.toLowerCase data.email)).isSome) :
      Moves config users data (.create passwordHash) (.created id issuedAt) users
        (.rejected uniqueConstraintError)

theorem Moves.of_step (h : step config users data stage answer = some (users', stage'))
    (faultless : ∀ error, answer ≠ .dbError error) :
    Moves config users data stage answer users' stage' := by
  cases stage with
  | findOne =>
    cases answer with
    | found =>
      cases h
      unfold afterFindOne
      cases found : users.find? (config.js.toLowerCase data.email) with
      | none => exact .unknown
      | some user => exact .known found _
    | dbError error => exact absurd rfl (faultless error)
    | _ => contradiction
  | genSalt =>
    cases answer with
    | salted salt => cases h; exact .salted
    | _ => contradiction
  | hash salt =>
    cases answer with
    | hashed => cases h; exact .hashed
    | _ => contradiction
  | create passwordHash =>
    cases answer with
    | created id issuedAt =>
      rw [step] at h
      split at h
      · contradiction
      · split at h
        next after inserted => cases h; exact .inserted _ inserted
        next refused => cases h; exact .duplicate (UniqueTable.insert?_eq_none_iff.mp refused)
    | dbError error => exact absurd rfl (faultless error)
    | _ => contradiction
  | resolved result => cases answer <;> contradiction
  | rejected error => cases answer <;> contradiction

end AuthService

theorem Register.countP_begin (calls : List Register) (data : RegisterRequest) :
    (calls ++ [Register.mk data .findOne]).countP (Register.succeeded config email) =
      calls.countP (Register.succeeded config email) := by
  have fresh : Register.succeeded config email ⟨data, .findOne⟩ = false := Bool.and_false _
  rw [List.countP_append, List.countP_singleton, fresh]
  rfl

namespace Registrations

/-- What the table says of the calls, and what a late insert leaves behind. -/
structure Accounted (config : AuthConfig) (email : String) (s : Registrations) (late : List Nat) :
    Prop where
  one : s.calls.countP (Register.succeeded config email) = (s.users.find? email).isSome.toNat
  settled : s.users.find? email = none → ∀ call ∈ s.calls, call.on config email = true →
    call.stage.settled = false
  refused : ∀ (i : Nat) (call : Register), s.calls[i]? = some call → call.on config email = true →
    ∀ error, call.stage = .rejected error →
      (∃ message, error = conflictError message .conflict) ∨ i ∈ late
  late : ∀ i ∈ late, ∃ call, s.calls[i]? = some call ∧ call.on config email = true ∧
    call.stage = .rejected uniqueConstraintError

theorem Accounted.start (config : AuthConfig) {users : UserTable} (free : users.find? email = none) :
    Accounted config email ⟨users, []⟩ [] where
  one := by rw [free]; rfl
  settled _ call mem := absurd mem List.not_mem_nil
  refused i call found := by contradiction
  late i mem := absurd mem List.not_mem_nil

theorem Accounted.begin (h : s.Accounted config email late) (data : RegisterRequest) :
    Accounted config email ⟨s.users, s.calls ++ [⟨data, .findOne⟩]⟩ late where
  one := (Register.countP_begin s.calls data).trans h.one
  settled free call mem asks := by
    rcases List.mem_append.mp mem with earlier | new
    · exact h.settled free call earlier asks
    · rw [List.mem_singleton.mp new]
      rfl
  refused i call found asks error rejected := by
    rcases getElem?_concat_cases found with before | ⟨-, rfl⟩
    · exact h.refused i call before asks error rejected
    · contradiction
  late i mem := by
    obtain ⟨call, found, rest⟩ := h.late i mem
    exact ⟨call, getElem?_append_of_some found, rest⟩

theorem Accounted.settle {i : Nat} {call : Register} {notes : List Nat}
    (h : s.Accounted config email late) (awaiting : s.calls[i]? = some call)
    (unsettled : call.stage.settled = false)
    (one : (s.users.find? email).isSome.toNat +
        (Register.succeeded config email { call with stage := stage' }).toNat =
      (users'.find? email).isSome.toNat)
    (settled : users'.find? email = none →
      s.users.find? email = none ∧ (call.on config email = true → stage'.settled = false))
    (refused : call.on config email = true → ∀ error, stage' = .rejected error →
      (∃ message, error = conflictError message .conflict) ∨ i ∈ notes)
    (noted : ∀ j ∈ notes,
      j = i ∧ call.on config email = true ∧ stage' = .rejected uniqueConstraintError) :
    Accounted config email ⟨users', s.calls.set i { call with stage := stage' }⟩ (late ++ notes) where
  one := by
    have count := countP_set_add (p := Register.succeeded config email)
      { call with stage := stage' } awaiting
    have before : Register.succeeded config email call = false := by
      unfold Register.succeeded
      cases stage : call.stage <;> simp [stage, RegisterStage.settled] at unsettled <;>
        simp [RegisterStage.isResolved]
    have earlier := h.one
    simp only [before, Bool.toNat_false] at count
    dsimp only
    omega
  settled free other mem asks := by
    obtain ⟨before, still⟩ := settled free
    obtain ⟨j, found⟩ := List.getElem?_of_mem mem
    rcases getElem?_set_cases found with ⟨-, found⟩ | ⟨-, rfl⟩
    · exact h.settled before other (List.mem_of_getElem? found) asks
    · exact still asks
  refused j other found asks error rejected := by
    rcases getElem?_set_cases found with ⟨-, found⟩ | ⟨rfl, rfl⟩
    · exact (h.refused j other found asks error rejected).imp_right (List.mem_append_left _)
    · exact (refused asks error rejected).imp_right (List.mem_append_right _)
  late j mem := by
    rcases List.mem_append.mp mem with earlier | new
    · obtain ⟨other, found, asks, rejected⟩ := h.late j earlier
      have apart : i ≠ j := by
        rintro rfl
        cases awaiting.symm.trans found
        rw [rejected] at unsettled
        contradiction
      exact ⟨other, (List.getElem?_set_ne apart).trans found, asks, rejected⟩
    · obtain ⟨rfl, asks, rejected⟩ := noted j new
      exact ⟨_, getElem?_set_of_some awaiting, asks, rejected⟩

theorem late?_created {i : Nat} {call : Register} {passwordHash id : String} {issuedAt : Int}
    (awaiting : s.calls[i]? = some call) (inserting : call.stage = .create passwordHash) :
    s.late? config email (.settle i (.created id issuedAt)) =
      if call.on config email && (s.users.find? email).isSome then some i else none := by
  simp only [late?, awaiting, inserting]

theorem Accounted.next (h : s.Accounted config email late) (healthy : faultless l = true)
    (moved : (registrations config).next s l = some t) :
    t.Accounted config email (noteLate config email s l t late) := by
  change s.next config l = some t at moved
  unfold noteLate
  cases l with
  | register data =>
    cases moved
    change Accounted config email _ (late ++ [])
    rw [List.append_nil]
    exact h.begin data
  | settle i answer =>
    obtain ⟨⟨data, stage⟩, awaiting, rest⟩ := Option.bind_eq_some_iff.mp moved
    obtain ⟨⟨users', stage'⟩, stepped, same⟩ := Option.bind_eq_some_iff.mp rest
    cases same
    have answered (error : Thrown) : answer ≠ .dbError error := by
      rintro rfl
      contradiction
    cases Moves.of_step stepped answered with
    | known found message =>
      apply h.settle awaiting rfl _ _ (fun _ error same => .inl ⟨message, RegisterStage.rejected.inj same.symm⟩)
      · intro j mem
        contradiction
      · simp [Register.succeeded, RegisterStage.isResolved]
      · intro free
        refine ⟨free, fun asks => ?_⟩
        rw [of_decide_eq_true asks, free] at found
        contradiction
    | @inserted passwordHash id issuedAt after result inserted =>
      have before := UniqueTable.find?_of_insert? inserted
      have after := UniqueTable.find?_insert? inserted email
      rw [late?_created awaiting rfl]
      cases asks : Register.on config email ⟨data, .create passwordHash⟩ with
      | true =>
        have same : config.js.toLowerCase data.email = email := of_decide_eq_true asks
        have free : s.users.find? email = none := same ▸ before
        have taken : User.email (newUser config data id passwordHash) = email := same
        rw [if_pos taken] at after
        apply h.settle awaiting rfl _ (by simp [after]) (fun _ _ => by simp) (by simp [free])
        simp [free, after, Register.succeeded, RegisterStage.isResolved, Register.on, same]
      | false =>
        have other : ¬ config.js.toLowerCase data.email = email := of_decide_eq_false asks
        have elsewhere : ¬ User.email (newUser config data id passwordHash) = email := other
        rw [if_neg elsewhere] at after
        apply h.settle awaiting rfl _ _ (fun _ _ => by simp) (by simp)
        · simp [after, Register.succeeded, Register.on, other]
        · intro free
          exact ⟨after ▸ free, fun mine => absurd (of_decide_eq_true mine) other⟩
    | @duplicate passwordHash id issuedAt taken =>
      rw [late?_created awaiting rfl]
      apply h.settle awaiting rfl
      · simp [Register.succeeded, RegisterStage.isResolved]
      · intro free
        refine ⟨free, fun asks => ?_⟩
        rw [of_decide_eq_true asks, free] at taken
        contradiction
      · intro asks error same
        have known : (s.users.find? email).isSome = true := of_decide_eq_true asks ▸ taken
        rw [asks, known]
        exact .inr List.mem_cons_self
      · intro j mem
        split at mem
        next both =>
          cases List.mem_singleton.mp mem
          exact ⟨rfl, (Bool.and_eq_true_iff.mp both).1, rfl⟩
        next => contradiction
    | _ =>
      apply h.settle awaiting rfl _ (fun free => ⟨free, fun _ => rfl⟩)
      · intro asks error same
        contradiction
      · intro j mem
        contradiction
      · simp [Register.succeeded, RegisterStage.isResolved]

end Registrations

/-- When all calls on a free email have settled, one of them has registered it and the others have been
told of the conflict, if and only if no insert came late: the violation of the index is reported as an
order that exists. -/
theorem registered_once_iff {users : UserTable}
    (named : traits.name uniqueConstraintError = "SequelizeUniqueConstraintError")
    (free : users.find? email = none)
    (ran : ((registrations config).observed (Registrations.noteLate config email)).Reaches
      (fun _ l => Registrations.faultless l = true) (⟨users, []⟩, []) (s, late))
    (asked : ∃ call ∈ s.calls, call.on config email = true)
    (settled : ∀ call ∈ s.calls, call.on config email = true → call.stage.settled = true) :
    s.RegisteredOnce config traits email ↔ late = [] := by
  have accounted : s.Accounted config email late := by
    apply @Machine.Reaches.observed_invariant _ _ _ (fun _ l => Registrations.faultless l = true) _ _ _ _ _ _
      (Registrations.Accounted config email) (.start config free) _ ran
    intro a l b g inv healthy moved
    exact inv.next healthy moved
  constructor
  · intro once
    refine List.eq_nil_iff_forall_not_mem.mpr fun i mem => ?_
    obtain ⟨call, found, asks, rejected⟩ := accounted.late i mem
    have code := (once.others call (List.mem_of_getElem? found) asks _ rejected).2
    unfold uniqueConstraintError at named code
    simp [resolveErrorInfo, named, ErrorCode.text] at code
  · rintro rfl
    have taken : (s.users.find? email).isSome.toNat = 1 := by
      cases found : s.users.find? email with
      | some user => rfl
      | none =>
        obtain ⟨call, mem, asks⟩ := asked
        have waits := accounted.settled found call mem asks
        rw [settled call mem asks] at waits
        contradiction
    refine ⟨accounted.one.trans taken, (UniqueTable.countP_key s.users email).trans taken, ?_⟩
    intro call mem asks error rejected
    obtain ⟨i, found⟩ := List.getElem?_of_mem mem
    rcases accounted.refused i call found asks error rejected with ⟨message, rfl⟩ | none
    · exact ⟨rfl, rfl⟩
    · contradiction

end

namespace Registrations

def plainConfig : AuthConfig where
  js := .ascii
  hash password salt := password ++ salt
  sign payload _ := payload.userId
  expiresIn := "24h"

def sequelizeTraits : ErrorTraits where
  name
    | .error "Validation error" => "SequelizeUniqueConstraintError"
    | _ => "Error"
  hasBody _ := false

def twice : List RegistrationsLabel :=
  [.register ⟨"ann@acme.io", "secret", none⟩, .register ⟨"Ann@acme.io", "secret", none⟩]

def insertion (i : Nat) (id : String) : List RegistrationsLabel :=
  [.settle i (.salted "salt"), .settle i .hashed, .settle i (.created id 0)]

def allSettled (s : Registrations) : Bool :=
  !s.calls.isEmpty &&
    s.calls.all fun call => call.on plainConfig "ann@acme.io" && call.stage.settled

theorem settled_of_allSettled {s : Registrations} (h : s.allSettled = true) :
    (∃ call ∈ s.calls, call.on plainConfig "ann@acme.io" = true) ∧
      ∀ call ∈ s.calls, call.on plainConfig "ann@acme.io" = true → call.stage.settled = true := by
  unfold allSettled at h
  simp only [Bool.and_eq_true, Bool.not_eq_true', List.isEmpty_eq_false_iff, List.all_eq_true] at h
  obtain ⟨call, mem⟩ := List.exists_mem_of_ne_nil _ h.1
  exact ⟨⟨call, mem, (h.2 call mem).1⟩, fun other among _ => (h.2 other among).2⟩

def misreports (s : Registrations) : Bool :=
  s.calls.any fun call =>
    call.on plainConfig "ann@acme.io" &&
      match call.stage with
      | .rejected error => (resolveErrorInfo sequelizeTraits error).errorCode ≠ ErrorCode.conflict.text
      | _ => false

end Registrations

open Registrations

theorem registered_once_in_turn : ∃ s : Registrations, s.calls.length = 2 ∧
    (s.RegisteredOnce plainConfig sequelizeTraits "ann@acme.io" ↔ ([] : List Nat) = []) := by
  obtain ⟨⟨s, late⟩, ran, test⟩ := Machine.Reaches.of_run_any
    ((registrations plainConfig).observed (noteLate plainConfig "ann@acme.io"))
    (fun _ l => faultless l = true) (⟨.empty, []⟩, [])
    (twice ++ [.settle 0 .found] ++ insertion 0 "U-1" ++ [.settle 1 .found])
    (fun s => s.1.calls.length = 2 && s.2 = [] && s.1.allSettled) (by decide)
  simp only [Bool.and_eq_true, decide_eq_true_eq] at test
  obtain ⟨⟨both, rfl⟩, settled⟩ := test
  obtain ⟨asked, settled⟩ := settled_of_allSettled settled
  exact ⟨s, both, registered_once_iff rfl rfl ran asked settled⟩

/-- Both calls look before either inserts: the second is told that an order with this id exists. -/
theorem late_registration_misreported :
    ¬ ∀ config traits email users s, traits.name uniqueConstraintError = "SequelizeUniqueConstraintError" →
      UniqueTable.find? users email = none →
      (registrations config).Reaches (fun _ l => faultless l = true) ⟨users, []⟩ s →
      (∃ call ∈ s.calls, call.on config email = true) →
      (∀ call ∈ s.calls, call.on config email = true → call.stage.settled = true) →
      s.RegisteredOnce config traits email := by
  intro claim
  obtain ⟨s, ran, test⟩ := Machine.Reaches.of_run_any (registrations plainConfig)
    (fun _ l => faultless l = true) ⟨.empty, []⟩
    (twice ++ [.settle 0 .found, .settle 1 .found] ++ insertion 0 "U-1" ++ insertion 1 "U-2")
    (fun s => s.allSettled && s.misreports) (by decide)
  obtain ⟨settled, misreports⟩ := Bool.and_eq_true_iff.mp test
  obtain ⟨asked, settled⟩ := settled_of_allSettled settled
  have once := claim plainConfig sequelizeTraits "ann@acme.io" .empty s rfl rfl ran asked settled
  obtain ⟨call, mem, wrong⟩ := List.any_eq_true.mp misreports
  obtain ⟨asks, wrong⟩ := Bool.and_eq_true_iff.mp wrong
  split at wrong
  next error rejected =>
    exact of_decide_eq_true wrong (once.others call mem asks error rejected).2
  next => contradiction

end CourierPlatform
