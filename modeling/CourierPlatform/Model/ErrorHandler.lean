import CourierPlatform.Model.Types

/-! `errorHandler`: what an error of a request is reported as. -/
namespace CourierPlatform
open Js

structure NormalizedErrorInfo where
  statusCode : Nat
  errorCode : String
  message : String
  details : Option Json := none
deriving DecidableEq

structure ErrorTraits where
  name : Thrown → String
  hasBody : Thrown → Bool

def resolveErrorInfo (traits : ErrorTraits) (err : Thrown) : NormalizedErrorInfo :=
  match err with
  | .courierError message _ errorCode statusCode _ _ => ⟨statusCode, errorCode.text, message, none⟩
  | .appError message statusCode errorCode details => ⟨statusCode, errorCode.text, message, details⟩
  | _ =>
    if traits.name err = "SequelizeUniqueConstraintError" then
      ⟨409, ErrorCode.orderAlreadyExists.text, "An order with this ID already exists", none⟩
    else if traits.name err = "SequelizeDatabaseError" then
      ⟨500, ErrorCode.internalServerError.text, "Database operation failed", none⟩
    else if traits.name err = "SyntaxError" && traits.hasBody err then
      ⟨400, ErrorCode.validationError.text, "Malformed JSON in request body", none⟩
    else
      ⟨500, ErrorCode.internalServerError.text, "An unexpected internal server error occurred", none⟩

end CourierPlatform
