import CourierPlatform.Model.Login

/-! `schemas/validator.ts`: what becomes of the errors of a validator. A validator is what `ajv.compile`
makes of a schema: it fills in the defaults, coerces the types and lists all errors. -/
namespace CourierPlatform
open Js

structure ErrorObject where
  instancePath : String
  keyword : String
  message : Option String := none
  missingProperty : Option String := none

abbrev ValidateFunction (α : Type) := Json → Except (List ErrorObject) α

structure FieldErrorDetail where
  field : String
  message : String
  code : String
deriving DecidableEq

def FieldErrorDetail.toJson (detail : FieldErrorDetail) : Json :=
  .object [("field", .string detail.field), ("message", .string detail.message),
    ("code", .string detail.code)]

/-- `instancePath.replace(/^\//, '').replace(/\//g, '.')` -/
def dottedPath (instancePath : String) : String :=
  let rest :=
    match instancePath.toList with
    | '/' :: rest => rest
    | path => path
  String.ofList (rest.map fun c => if c = '/' then '.' else c)

def ErrorObject.field (err : ErrorObject) : String :=
  if dottedPath err.instancePath ≠ "" then dottedPath err.instancePath
  else orDefault err.missingProperty "body"

/-- Of no errors at all there is one detail, which has no code. -/
def formatAjvErrors (errors : List ErrorObject) : Json :=
  if errors = [] then
    .array [.object [("field", .string "body"), ("message", .string "Invalid request payload")]]
  else
    .array (errors.map fun err =>
      FieldErrorDetail.toJson ⟨err.field, orDefault err.message "Validation error", err.keyword⟩)

def validateData {α : Type} (validateFn : ValidateFunction α) (data : Json) : Except Thrown α :=
  (validateFn data).mapError fun errors =>
    .appError "Validation failed for request payload" 400 .validationError
      (some (formatAjvErrors errors))

structure Validators where
  createOrder : ValidateFunction NormalizedCreateOrderRequest
  bulkCreateOrder : ValidateFunction (List NormalizedCreateOrderRequest)
  cancelOrder : ValidateFunction (Option String)
  register : ValidateFunction RegisterRequest
  login : ValidateFunction LoginRequest

def NormalizedCreateOrderRequest.accepted (formats : Formats) (order : NormalizedCreateOrderRequest) :
    Bool :=
  createOrderSchema formats order && order.useDefaults = order

def bulkCreateOrderSchema (formats : Formats) (orders : List NormalizedCreateOrderRequest) : Bool :=
  1 ≤ orders.length && orders.length ≤ 100 && orders.all (·.accepted formats)

def cancelOrderSchema (reason : Option String) : Bool := reason.all (·.length ≤ 500)

/-- The validators accept what their schemas say, and hand it on with its defaults. -/
structure Validators.Sound (validators : Validators) (formats : Formats) : Prop where
  createOrder : ∀ body order, validators.createOrder body = .ok order → order.accepted formats = true
  bulkCreateOrder : ∀ body orders, validators.bulkCreateOrder body = .ok orders →
    bulkCreateOrderSchema formats orders = true
  cancelOrder : ∀ body reason, validators.cancelOrder body = .ok reason →
    cancelOrderSchema reason = true
  register : ∀ body data, validators.register body = .ok data →
    registerSchema formats data = true ∧ data.useDefaults = data
  login : ∀ body data, validators.login body = .ok data → loginSchema formats data = true

end CourierPlatform
