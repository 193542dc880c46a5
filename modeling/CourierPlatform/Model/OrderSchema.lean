import CourierPlatform.Model.Types

/-! The schema of a create-order request, as a check of the request that the validator hands
on: the types are coerced and the defaults are filled in. Lengths count code points. -/
namespace CourierPlatform
open Js

structure Formats where
  email : String → Bool
  date : String → Bool

def lengthBetween (minLength maxLength : Nat) (text : String) : Bool :=
  minLength ≤ text.length && text.length ≤ maxLength

def aboveZero (value : Number) : Bool := 0 < value.mantissa

def fromZero (value : Number) : Bool := 0 ≤ value.mantissa

def isInteger (value : Number) : Bool := 0 ≤ value.exponent

def addressSchema (formats : Formats) (address : AddressInfo) : Bool :=
  lengthBetween 2 100 address.name && lengthBetween 7 20 address.phone &&
    address.email.all formats.email && lengthBetween 3 300 address.address &&
    lengthBetween 2 100 address.city && lengthBetween 2 100 address.state &&
    lengthBetween 4 12 address.pincode &&
    address.addressType.all (· ∈ ["Seller", "Home", "Warehouse", "Office"])

def packageDetailsSchema (details : PackageDetails) : Bool :=
  aboveZero details.weightKg && aboveZero details.lengthCm && aboveZero details.breadthCm &&
    aboveZero details.heightCm && isInteger details.itemsCount && aboveZero details.itemsCount &&
    lengthBetween 1 255 details.itemDescription

def paymentDetailsSchema (details : PaymentDetails) : Bool :=
  fromZero details.collectableAmount && fromZero details.declaredValue

def invoiceDetailsSchema (formats : Formats) (details : InvoiceDetails) : Bool :=
  details.invoiceDate.all formats.date && details.invoiceValue.all fromZero

def createOrderSchema (formats : Formats) (order : NormalizedCreateOrderRequest) : Bool :=
  lengthBetween 1 100 order.orderId && lengthBetween 1 50 order.courierPartner &&
    addressSchema formats order.sender && addressSchema formats order.recipient &&
    order.returnAddress.all (addressSchema formats) &&
    packageDetailsSchema order.packageDetails && paymentDetailsSchema order.paymentDetails &&
    order.invoiceDetails.all (invoiceDetailsSchema formats) &&
    order.serviceType.all (· ∈ ["STANDARD", "EXPRESS", "SAME_DAY", "NEXT_DAY", "SDD", "NDD"])

/-- The defaults of the address schema, which is one for the three roles. -/
def AddressInfo.useDefaults (address : AddressInfo) : AddressInfo :=
  { address with
    country := some (address.country.getD "India")
    addressType := some (address.addressType.getD "Seller") }

/-- The body after validation: the absent properties that have a default are set to it. -/
def NormalizedCreateOrderRequest.useDefaults (order : NormalizedCreateOrderRequest) :
    NormalizedCreateOrderRequest :=
  { order with
    sender := order.sender.useDefaults
    recipient := order.recipient.useDefaults
    returnAddress := order.returnAddress.map AddressInfo.useDefaults
    serviceType := some (order.serviceType.getD "STANDARD") }

theorem nonempty_of_lengthBetween {minLength maxLength : Nat} {text : String}
    (positive : 0 < minLength) (h : lengthBetween minLength maxLength text = true) :
    text ≠ "" := by
  rintro rfl
  have bound := of_decide_eq_true (Bool.and_eq_true_iff.mp h).1
  exact absurd positive (Nat.not_lt.mpr bound)

variable {formats : Formats}

theorem addressSchema_city {address : AddressInfo} (h : addressSchema formats address = true) :
    address.city ≠ "" := by
  simp only [addressSchema, Bool.and_eq_true] at h
  exact nonempty_of_lengthBetween Nat.two_pos h.1.1.1.2

theorem addressSchema_useDefaults (address : AddressInfo) :
    addressSchema formats address.useDefaults = addressSchema formats address := by
  cases stated : address.addressType <;>
    simp [addressSchema, AddressInfo.useDefaults, stated]

/-- Every default passes the check of its own property, so a body is accepted with its defaults
filled in exactly when it is accepted without. -/
theorem createOrderSchema_useDefaults (order : NormalizedCreateOrderRequest) :
    createOrderSchema formats order.useDefaults = createOrderSchema formats order := by
  have sender := @addressSchema_useDefaults formats order.sender
  have recipient := @addressSchema_useDefaults formats order.recipient
  have returnAddress :
      (order.returnAddress.map AddressInfo.useDefaults).all (addressSchema formats) =
        order.returnAddress.all (addressSchema formats) := by
    cases order.returnAddress with
    | none => rfl
    | some address => exact addressSchema_useDefaults address
  cases stated : order.serviceType <;>
    simp [createOrderSchema, NormalizedCreateOrderRequest.useDefaults, sender, recipient,
      returnAddress, stated]

theorem createOrderSchema_sender {order : NormalizedCreateOrderRequest}
    (h : createOrderSchema formats order = true) : addressSchema formats order.sender = true := by
  simp only [createOrderSchema, Bool.and_eq_true] at h
  exact h.1.1.1.1.1.1.2

end CourierPlatform
