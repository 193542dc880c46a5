import CourierPlatform.Model.AuthService
import CourierPlatform.Model.OrderSchema

/-! `AuthService.login` beside `register`: any number of calls of both over one users table, with the
schemas of their requests. -/
namespace CourierPlatform
open Library

structure LoginRequest where
  email : String
  password : String

def registerSchema (formats : Formats) (data : RegisterRequest) : Bool :=
  formats.email data.email && lengthBetween 5 255 data.email && lengthBetween 6 100 data.password &&
    data.role.all (· ∈ ["USER", "ADMIN", "OPERATOR"])

def RegisterRequest.useDefaults (data : RegisterRequest) : RegisterRequest :=
  { data with role := some (data.role.getD "USER") }

theorem registerSchema_useDefaults (formats : Formats) (data : RegisterRequest) :
    registerSchema formats data.useDefaults = registerSchema formats data := by
  cases stated : data.role <;> simp [registerSchema, RegisterRequest.useDefaults, stated]

def loginSchema (formats : Formats) (data : LoginRequest) : Bool :=
  formats.email data.email && 1 ≤ data.password.length

structure LoginConfig extends AuthConfig where
  compare : (password passwordHash : String) → Bool
  formats : Formats

inductive LoginStage where
  /-- `User.findOne`. -/
  | findOne
  /-- `bcrypt.compare`. -/
  | compare (user : User)
  | resolved (result : AuthResult)
  | rejected (error : Thrown)

def LoginStage.settled : LoginStage → Bool
  | resolved _ => true
  | rejected _ => true
  | _ => false

def LoginStage.isResolved : LoginStage → Bool
  | resolved _ => true
  | _ => false

structure Login where
  data : LoginRequest
  stage : LoginStage := .findOne

inductive LoginAnswer where
  | found
  /-- With the time at which the token is signed. -/
  | compared (issuedAt : Int)
  | dbError (error : Thrown)

def unauthorizedError (message : String) : Thrown := .appError message 401 .unauthorized none

namespace AuthService

variable (config : LoginConfig)

def afterFindUser : Option User → LoginStage
  | none => .rejected (unauthorizedError "Invalid email or password")
  | some user => .compare user

def afterCompare (data : LoginRequest) (user : User) (issuedAt : Int) : LoginStage :=
  if config.compare data.password user.passwordHash then
    .resolved (authResult config.toAuthConfig user issuedAt)
  else .rejected (unauthorizedError "Invalid email or password")

def loginStep (users : UserTable) (data : LoginRequest) : LoginStage → LoginAnswer → Option LoginStage
  | .findOne, .found => some (afterFindUser (users.find? (config.js.toLowerCase data.email)))
  | .findOne, .dbError error => some (.rejected error)
  | .compare user, .compared issuedAt => some (afterCompare config data user issuedAt)
  | _, _ => none

end AuthService

structure Accounts where
  registrations : Registrations
  logins : List Login := []

inductive AccountsLabel where
  | registrations (l : RegistrationsLabel)
  | login (data : LoginRequest)
  | settle (i : Nat) (answer : LoginAnswer)

namespace Accounts

def init : Accounts where
  registrations := ⟨.empty, []⟩

def next (config : LoginConfig) (s : Accounts) : AccountsLabel → Option Accounts
  | .registrations l =>
    (s.registrations.next config.toAuthConfig l).map fun registrations => { s with registrations }
  | .login data => some { s with logins := s.logins ++ [{ data }] }
  | .settle i answer => do
    let call ← s.logins[i]?
    let stage ← AuthService.loginStep config s.registrations.users call.data call.stage answer
    some { s with logins := s.logins.set i { call with stage } }

end Accounts

def accounts (config : LoginConfig) : Machine Accounts AccountsLabel := ⟨Accounts.next config⟩

def AccountsLabel.valid (formats : Formats) : AccountsLabel → Bool
  | registrations (.register data) => registerSchema formats data
  | login data => loginSchema formats data
  | _ => true

end CourierPlatform
