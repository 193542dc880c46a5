import CourierPlatform.Js.Date
import CourierPlatform.Model.Types

/-! `UrbaneBoltMapper.toManifestPayload`: an order as the manifest that is posted to the
UrbaneBolt API. -/
namespace CourierPlatform
open Js

/-- `Number(value) || fallback`. -/
def numberOr (value fallback : Number) : Number := if value.truthy then value else fallback

/-- The fields of one address, whose names begin with `shpr`, `cons` or `rtn` in the manifest. -/
structure ManifestAddress where
  name : String
  address : String
  city : String
  state : String
  pincode : String
  country : String
  mobile : String
  email : String
  addressType : String
deriving DecidableEq

structure UrbaneBoltManifestItem where
  customerCode : String
  orderNumber : String
  declaredValue : Number
  itemDescription : String
  collectableValue : Number
  height : Number
  length : Number
  breadth : Number
  pieces : Number
  weight : Number
  serviceType : String
  payMode : String
  shpr : ManifestAddress
  cons : ManifestAddress
  rtn : ManifestAddress
  invoiceNumber : String
  invoiceDate : String
  invoiceValue : Number
  itemQuantity : Number
deriving DecidableEq

namespace UrbaneBoltMapper

def mapAddressProperties (info : AddressInfo) (email addressType : String) : ManifestAddress where
  name := info.name
  address := info.address
  city := info.city
  state := info.state
  pincode := info.pincode
  country := orDefault info.country "India"
  mobile := info.phone
  email := orDefault info.email email
  addressType := orDefault info.addressType addressType

def mapShipperProperties (sender : AddressInfo) : ManifestAddress :=
  mapAddressProperties sender "seller@urbanebolt.com" "Seller"

def mapRecipientProperties (recipient : AddressInfo) : ManifestAddress :=
  mapAddressProperties recipient "customer@urbanebolt.com" "Home"

def mapReturnProperties (returnAddress : AddressInfo) : ManifestAddress :=
  mapAddressProperties returnAddress "returns@urbanebolt.com" "Seller"

def payModeOf (mode : PaymentMode) : String := if mode = .cod then "COD" else "PPD"

def collectableValueOf (payment : PaymentDetails) : Number :=
  if payModeOf payment.paymentMode = "COD" then numberOr payment.collectableAmount 0 else 0

/-- `invoice?.invoice_value || Number(payment?.declared_value) || 100`. -/
def invoiceValueOf (invoice : Option InvoiceDetails) (payment : PaymentDetails) : Number :=
  match invoice.bind (·.invoiceValue) with
  | some value => if value.truthy then value else numberOr payment.declaredValue 100
  | none => numberOr payment.declaredValue 100

/-- `now` is the instant that `Date.now()` and `new Date()` read. -/
def toManifestPayload (customerCode : String) (now : Int) (order : NormalizedCreateOrderRequest) :
    List UrbaneBoltManifestItem :=
  let sender := order.sender
  let returnAddress := order.returnAddress.getD sender
  let pkg := order.packageDetails
  let payment := order.paymentDetails
  let invoice := order.invoiceDetails
  [{
    customerCode
    orderNumber := order.orderId
    itemDescription := orDefault (some pkg.itemDescription) "General Goods"
    height := numberOr pkg.heightCm 10
    length := numberOr pkg.lengthCm 10
    breadth := numberOr pkg.breadthCm 10
    pieces := numberOr pkg.itemsCount 1
    weight := numberOr pkg.weightKg (.ofDecimal 5 (-1))
    serviceType := orDefault order.serviceType "SDD"
    payMode := payModeOf payment.paymentMode
    collectableValue := collectableValueOf payment
    declaredValue := numberOr payment.declaredValue 100
    shpr := mapShipperProperties sender
    cons := mapRecipientProperties order.recipient
    rtn := mapReturnProperties returnAddress
    invoiceNumber := orDefault (invoice.bind (·.invoiceNumber)) ("INV-" ++ toString now)
    invoiceDate := orDefault (invoice.bind (·.invoiceDate)) (isoDate now)
    invoiceValue := invoiceValueOf invoice payment
    itemQuantity := numberOr pkg.itemsCount 1 }]

end UrbaneBoltMapper
end CourierPlatform
