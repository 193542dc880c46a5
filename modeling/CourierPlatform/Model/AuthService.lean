import CourierPlatform.Library.Machine
import CourierPlatform.Library.UniqueTable
import CourierPlatform.Model.Registry
import CourierPlatform.Model.Tables

/-! `AuthService.register`: any number of calls over one users table, whose `email` is unique. -/
namespace CourierPlatform
open Library

structure RegisterRequest where
  email : String
  password : String
  role : Option String := none

structure User where
  id : String
  email : String
  passwordHash : String
  role : String

abbrev UserTable := UniqueTable User User.email

structure JwtUserPayload where
  userId : String
  email : String
  role : String

structure AuthUser where
  id : String
  email : String
  role : String

structure AuthResult where
  user : AuthUser
  token : String
  expiresIn : String

/-- The packages that hash and sign, with the configuration of the tokens. A token depends on the
time at which it is signed. -/
structure AuthConfig where
  js : JsText
  hash : (password salt : String) → String
  sign : JwtUserPayload → Int → String
  expiresIn : String

inductive RegisterStage where
  /-- `User.findOne`. -/
  | findOne
  /-- `bcrypt.genSalt`. -/
  | genSalt
  /-- `bcrypt.hash`. -/
  | hash (salt : String)
  /-- `User.create`. -/
  | create (passwordHash : String)
  | resolved (result : AuthResult)
  | rejected (error : Thrown)

def RegisterStage.settled : RegisterStage → Bool
  | resolved _ => true
  | rejected _ => true
  | _ => false

structure Register where
  data : RegisterRequest
  stage : RegisterStage := .findOne

/-- How the operation that a call awaits settles: a database operation or the hashing, whose result is
determined, with what the packages draw at random. -/
inductive RegisterAnswer where
  | found
  | salted (salt : String)
  | hashed
  /-- With the fresh id of the row, and the time at which the token is signed. -/
  | created (id : String) (issuedAt : Int)
  | dbError (error : Thrown)

def conflictError (message : String) (errorCode : ErrorCode) : Thrown :=
  .appError message 409 errorCode none

namespace AuthService

variable (config : AuthConfig)

def userRole : String := "USER"

def newUser (data : RegisterRequest) (id passwordHash : String) : User where
  id
  email := config.js.toLowerCase data.email
  passwordHash
  role := orDefault data.role userRole

def authResult (user : User) (issuedAt : Int) : AuthResult where
  user := ⟨user.id, user.email, user.role⟩
  token := config.sign ⟨user.id, user.email, user.role⟩ issuedAt
  expiresIn := config.expiresIn

def afterFindOne (data : RegisterRequest) : Option User → RegisterStage
  | some _ =>
    .rejected (conflictError ("User with email '" ++ data.email ++ "' already exists") .conflict)
  | none => .genSalt

def step (users : UserTable) (data : RegisterRequest) :
    RegisterStage → RegisterAnswer → Option (UserTable × RegisterStage)
  | .findOne, .found =>
    some (users, afterFindOne data (users.find? (config.js.toLowerCase data.email)))
  | .genSalt, .salted salt => some (users, .hash salt)
  | .hash salt, .hashed => some (users, .create (config.hash data.password salt))
  | .create passwordHash, .created id issuedAt =>
    if users.rows.any (·.id = id) then none
    else
      match users.insert? (newUser config data id passwordHash) with
      | some after =>
        some (after, .resolved (authResult config (newUser config data id passwordHash) issuedAt))
      | none => some (users, .rejected uniqueConstraintError)
  | .findOne, .dbError error => some (users, .rejected error)
  | .create _, .dbError error => some (users, .rejected error)
  | _, _ => none

end AuthService

structure Registrations where
  users : UserTable
  calls : List Register := []

inductive RegistrationsLabel where
  | register (data : RegisterRequest)
  | settle (i : Nat) (answer : RegisterAnswer)

def Registrations.next (config : AuthConfig) (s : Registrations) :
    RegistrationsLabel → Option Registrations
  | .register data => some { s with calls := s.calls ++ [{ data }] }
  | .settle i answer => do
    let call ← s.calls[i]?
    let (users, stage) ← AuthService.step config s.users call.data call.stage answer
    some ⟨users, s.calls.set i { call with stage }⟩

def registrations (config : AuthConfig) : Machine Registrations RegistrationsLabel :=
  ⟨Registrations.next config⟩

end CourierPlatform
