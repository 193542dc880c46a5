import CourierPlatform.Model.Server
import CourierPlatform.Proofs.Logins
import CourierPlatform.Spec.Schedules
import Mathlib.Logic.Denumerable
import Mathlib.Logic.Equiv.List

/-! The API server as it is configured by default, with the bodies of a few requests and what the
packages make of them. -/
namespace CourierPlatform
open Js Library

def parcelBody : Json := .object [
  ("order_id", .string "A-1"),
  ("courier_partner", .string "mock"),
  ("sender", .object [("name", .string "Acme"), ("phone", .string "9000000001"),
    ("address", .string "1 Mill Road"), ("city", .string "Pune"), ("state", .string "MH"),
    ("pincode", .string "411001")]),
  ("recipient", .object [("name", .string "Ravi"), ("phone", .string "9000000002"),
    ("address", .string "2 Lake Road"), ("city", .string "Delhi"), ("state", .string "DL"),
    ("pincode", .string "110001")]),
  ("package_details", .object [("weight_kg", .number 1), ("length_cm", .number 10),
    ("breadth_cm", .number 10), ("height_cm", .number 10), ("items_count", .number 1),
    ("item_description", .string "Books")]),
  ("payment_details", .object [("payment_mode", .string "PREPAID"),
    ("collectable_amount", .number 0), ("declared_value", .number 100)])]

def credentialsBody : Json :=
  .object [("email", .string "ann@acme.io"), ("password", .string "secret")]

/-- What the validators make of these bodies; any other is refused. -/
def sampleValidators : Validators where
  createOrder body :=
    if body = parcelBody then .ok (parcel "A-1" "mock").useDefaults else .error [missing "order_id"]
  bulkCreateOrder _ := .error [missing "orders"]
  cancelOrder body :=
    if body = .object [] then .ok none
    else .error [⟨"", "type", some "must be object", none⟩]
  register body :=
    if body = credentialsBody then
      .ok (RegisterRequest.useDefaults ⟨"ann@acme.io", "secret", none⟩)
    else .error [missing "email"]
  login body :=
    if body = credentialsBody then .ok ⟨"ann@acme.io", "secret"⟩ else .error [missing "email"]
where
  missing (property : String) : ErrorObject :=
    ⟨"", "required", some ("must have required property '" ++ property ++ "'"), some property⟩

theorem sampleValidators_sound : sampleValidators.Sound Accounts.plainLogins.formats where
  createOrder body order h := by
    simp only [sampleValidators] at h
    split at h
    · cases h
      decide
    · contradiction
  bulkCreateOrder body orders h := by contradiction
  cancelOrder body reason h := by
    simp only [sampleValidators] at h
    split at h
    · cases h
      rfl
    · contradiction
  register body data h := by
    simp only [sampleValidators] at h
    split at h
    · cases h
      exact ⟨by decide, rfl⟩
    · contradiction
  login body data h := by
    simp only [sampleValidators] at h
    split at h
    · cases h
      decide
    · contradiction

/-! ## Tokens -/

def tokenLifetime : Int := 86400

/-- The payload of a token and the second at which it is signed, as one number. -/
def tokenNumber (payload : JwtUserPayload) (iat : Int) : Nat :=
  Encodable.encode (payload.userId.toList.map Char.toNat, payload.email.toList.map Char.toNat,
    payload.role.toList.map Char.toNat, iat)

def plainSign (payload : JwtUserPayload) (issuedAt : Int) : String :=
  String.ofList (List.replicate (tokenNumber payload (issuedAt / 1000)) 'x')

def textOf (codes : List Nat) : String := String.ofList (codes.map Char.ofNat)

def plainVerify : JwtVerify := fun token now =>
  match (Encodable.decode token.length : Option (List Nat × List Nat × List Nat × Int)) with
  | some (userId, email, role, iat) =>
    if now / 1000 < iat + tokenLifetime then
      .ok ⟨⟨textOf userId, textOf email, textOf role⟩, iat, iat + tokenLifetime⟩
    else .error .expired
  | none => .error .invalid

theorem textOf_toList (text : String) : textOf (text.toList.map Char.toNat) = text := by
  have same : (Char.ofNat ∘ Char.toNat) = id := funext Char.ofNat_toNat
  rw [textOf, List.map_map, same, List.map_id, String.ofList_toList]

theorem plainVerify_sign (payload : JwtUserPayload) (issuedAt now : Int) :
    plainVerify (plainSign payload issuedAt) now =
      if now / 1000 < issuedAt / 1000 + tokenLifetime then
        .ok ⟨payload, issuedAt / 1000, issuedAt / 1000 + tokenLifetime⟩
      else .error .expired := by
  have length : (plainSign payload issuedAt).length = tokenNumber payload (issuedAt / 1000) := by
    rw [plainSign, String.length_ofList, List.length_replicate]
  rw [plainVerify, length, tokenNumber, Encodable.encodek]
  simp only [textOf_toList]

def productionServer : ServerConfig where
  env := defaultEnv .postgres .named
  login := { Accounts.plainLogins with sign := plainSign }
  validators := sampleValidators
  traits := ⟨fun err => if err = uniqueConstraintError then
    "SequelizeUniqueConstraintError" else "Error", fun _ => false⟩
  verify := plainVerify
  startedAt := 0
  nodeEnv := some "production"

theorem productionServer_verify : productionServer.verify = plainVerify := rfl

theorem productionServer_sign : productionServer.login.sign = plainSign := rfl

def bookParcel : HttpRequest where
  method := "POST"
  originalUrl := "/api/v1/orders"
  path := ["api", "v1", "orders"].map .plain
  xRequestId := some "R-1"
  body := .ok parcelBody

def readOrder (orderId : String) : HttpRequest where
  method := "GET"
  originalUrl := "/api/v1/orders/" ++ orderId
  path := ["api", "v1", "orders", orderId].map .plain

def registerAnn : HttpRequest where
  method := "POST"
  originalUrl := "/api/v1/auth/register"
  path := ["api", "v1", "auth", "register"].map .plain
  body := .ok credentialsBody

def profileOf (token : String) : HttpRequest where
  method := "GET"
  originalUrl := "/api/v1/auth/me"
  path := ["api", "v1", "auth", "me"].map .plain
  authorization := some ("Bearer " ++ token)

end CourierPlatform
