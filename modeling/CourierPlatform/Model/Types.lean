import CourierPlatform.Js.Json

/-! Enumerations, requests, replies and errors shared by the services. Optional
properties are `Option`; a column that may be SQL `NULL` is `Option` as well. -/
namespace CourierPlatform
open Js

/-- `value || fallback` on an optional string: the empty string counts as missing. -/
def orDefault (value : Option String) (fallback : String) : String :=
  match value with
  | some text => if text = "" then fallback else text
  | none => fallback

theorem orDefault_empty (text : String) : orDefault (some text) "" = text := by
  rw [orDefault]
  split
  next empty => exact empty.symm
  next => rfl

/-- `value || null`. -/
def orNull (value : Option String) : Option String := value.filter (· ≠ "")

inductive ShipmentStatus where
  | pendingDispatch | created | pickedUp | inTransit | delivered | cancelled | failed
deriving DecidableEq, Repr

inductive BulkBatchStatus where
  | processing | completed | partialSuccess | failed
deriving DecidableEq, Repr

inductive BulkItemStatus where
  | success | failed | skippedIdempotent
deriving DecidableEq, Repr

inductive PaymentMode where
  | cod | prepaid
deriving DecidableEq, Repr

inductive DatabaseDialect where
  | sqlite | postgres
deriving DecidableEq, Repr

inductive ErrorCode where
  | validationError | unknownCourier | unauthorized | forbidden | orderNotFound | resourceNotFound
  | orderAlreadyExists | conflict | courierBadRequest | courierAuthError | courierRateLimited
  | courierServiceUnavailable | courierTimeout | courierApiError | databaseError
  | internalServerError
deriving DecidableEq, Repr

def ErrorCode.text : ErrorCode → String
  | validationError => "VALIDATION_ERROR"
  | unknownCourier => "UNKNOWN_COURIER"
  | unauthorized => "UNAUTHORIZED"
  | forbidden => "FORBIDDEN"
  | orderNotFound => "ORDER_NOT_FOUND"
  | resourceNotFound => "RESOURCE_NOT_FOUND"
  | orderAlreadyExists => "ORDER_ALREADY_EXISTS"
  | conflict => "CONFLICT"
  | courierBadRequest => "COURIER_BAD_REQUEST"
  | courierAuthError => "COURIER_AUTH_ERROR"
  | courierRateLimited => "COURIER_RATE_LIMITED"
  | courierServiceUnavailable => "COURIER_SERVICE_UNAVAILABLE"
  | courierTimeout => "COURIER_TIMEOUT"
  | courierApiError => "COURIER_API_ERROR"
  | databaseError => "DATABASE_ERROR"
  | internalServerError => "INTERNAL_SERVER_ERROR"

structure AddressInfo where
  name : String
  phone : String
  email : Option String := none
  address : String
  city : String
  state : String
  pincode : String
  country : Option String := none
  addressType : Option String := none
deriving DecidableEq

structure PackageDetails where
  weightKg : Number
  lengthCm : Number
  breadthCm : Number
  heightCm : Number
  itemsCount : Number
  itemDescription : String
deriving DecidableEq

structure PaymentDetails where
  paymentMode : PaymentMode
  collectableAmount : Number
  declaredValue : Number
deriving DecidableEq

structure InvoiceDetails where
  invoiceNumber : Option String := none
  invoiceDate : Option String := none
  invoiceValue : Option Number := none
deriving DecidableEq

structure NormalizedCreateOrderRequest where
  orderId : String
  courierPartner : String
  sender : AddressInfo
  recipient : AddressInfo
  returnAddress : Option AddressInfo := none
  packageDetails : PackageDetails
  paymentDetails : PaymentDetails
  invoiceDetails : Option InvoiceDetails := none
  serviceType : Option String := none
deriving DecidableEq

structure NormalizedCreateOrderResponse where
  orderId : String
  courierPartner : String
  courierOrderId : String
  awbNumber : String
  status : ShipmentStatus
  rawResponse : Option Json
  rawRequest : NormalizedCreateOrderRequest
deriving DecidableEq

/-- `timestamp` is the instant, in milliseconds, that the ISO string of the source denotes. -/
structure TrackingEventItem where
  status : ShipmentStatus
  activity : String
  location : Option String := none
  timestamp : Int
  rawDetails : Option Json := none
deriving DecidableEq

structure NormalizedTrackingResponse where
  orderId : String
  courierPartner : String
  awbNumber : String
  status : ShipmentStatus
  currentStatusDescription : String
  estimatedDelivery : Option Json := none
  trackingHistory : List TrackingEventItem
  rawResponse : Json
deriving DecidableEq

structure NormalizedCancelResponse where
  orderId : String
  courierPartner : String
  awbNumber : String
  status : ShipmentStatus
  cancelledAt : Int
  message : Json
  rawResponse : Option Json
deriving DecidableEq

/-- What a rejected promise carries: the platform's own errors, any other
`Error`, or a thrown value that is none, kept as its `String(error)`. -/
inductive Thrown where
  | courierError (message courierPartner : String) (errorCode : ErrorCode) (statusCode : Nat)
      (rawCourierResponse : Option Json) (isRetryable : Bool)
  | appError (message : String) (statusCode : Nat) (errorCode : ErrorCode) (details : Option Json)
  | error (message : String)
  | value (text : String)
deriving DecidableEq

def Thrown.message : Thrown → String
  | courierError message .. => message
  | appError message .. => message
  | error message => message
  | value text => text

def unknownCourierError (courierName : String) (supportedCouriers : List String) : Thrown :=
  .appError
    ("Unknown courier partner: '" ++ courierName ++ "'. Supported courier partners are: " ++
      ", ".intercalate supportedCouriers)
    400 .unknownCourier
    (some (.object [("requestedCourier", .string courierName),
      ("supportedCouriers", .array (supportedCouriers.map .string))]))

def notFoundError (message : String) (errorCode : ErrorCode) : Thrown :=
  .appError message 404 errorCode none

def validationError (message : String) : Thrown :=
  .appError message 400 .validationError none

structure BulkItemError where
  code : String
  message : String
  details : Option Json
deriving DecidableEq

structure BulkOrderItemResult where
  orderId : String
  courierPartner : String
  status : BulkItemStatus
  awbNumber : Option String := none
  courierOrderId : Option String := none
  error : Option BulkItemError := none
deriving DecidableEq

structure BulkOrderResponse where
  batchId : String
  totalOrders : Nat
  successfulOrders : Nat
  failedOrders : Nat
  results : List BulkOrderItemResult
deriving DecidableEq

end CourierPlatform
