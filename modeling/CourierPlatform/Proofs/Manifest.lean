import CourierPlatform.Model.OrderSchema
import CourierPlatform.Model.UrbaneBoltManifest
import CourierPlatform.Spec.Schedules

/-! The manifest of an order before and after the schema has filled in its defaults. -/
namespace CourierPlatform
open Js UrbaneBoltMapper

theorem orDefault_getD_iff {default fallback : String} (text : Option String)
    (nonempty : default ≠ "") :
    orDefault (some (text.getD default)) fallback = orDefault text fallback ↔
      text.isSome ∨ default = fallback := by
  cases text with
  | none => simp [orDefault, nonempty]
  | some text => simp [orDefault]

section
variable {email addressType : String}

theorem mapAddressProperties_useDefaults_iff (info : AddressInfo) :
    mapAddressProperties info.useDefaults email addressType =
        mapAddressProperties info email addressType ↔
      info.addressType.isSome ∨ "Seller" = addressType := by
  have country : orDefault (some (info.country.getD "India")) "India" = orDefault info.country "India" := by
    rw [orDefault_getD_iff info.country (by decide)]
    exact .inr rfl
  rw [← orDefault_getD_iff info.addressType (by decide)]
  simp [mapAddressProperties, AddressInfo.useDefaults, country]

theorem mapAddressProperties_useDefaults (info : AddressInfo) :
    mapAddressProperties info.useDefaults email "Seller" =
      mapAddressProperties info email "Seller" := by
  rw [mapAddressProperties_useDefaults_iff]
  exact .inr rfl

end

theorem mapRecipientProperties_useDefaults_iff (recipient : AddressInfo) :
    mapRecipientProperties recipient.useDefaults = mapRecipientProperties recipient ↔
      recipient.addressType.isSome := by
  unfold mapRecipientProperties
  rw [mapAddressProperties_useDefaults_iff]
  simp

theorem mapReturnProperties_useDefaults (order : NormalizedCreateOrderRequest) :
    mapReturnProperties (order.useDefaults.returnAddress.getD order.useDefaults.sender) =
      mapReturnProperties (order.returnAddress.getD order.sender) := by
  have chosen : order.useDefaults.returnAddress.getD order.useDefaults.sender =
      (order.returnAddress.getD order.sender).useDefaults := by
    cases stated : order.returnAddress <;>
      simp [NormalizedCreateOrderRequest.useDefaults, stated]
  rw [chosen]
  apply mapAddressProperties_useDefaults

/-- The two sets of defaults give one manifest exactly where neither of the two fields is left out
on which they differ: the recipient's address type and the service type. -/
theorem manifest_useDefaults_iff (customerCode : String) (now : Int)
    (order : NormalizedCreateOrderRequest) :
    toManifestPayload customerCode now order.useDefaults =
        toManifestPayload customerCode now order ↔
      order.recipient.addressType.isSome ∧ order.serviceType.isSome := by
  have shipper : mapShipperProperties order.useDefaults.sender = mapShipperProperties order.sender :=
    mapAddressProperties_useDefaults order.sender
  have recipient := mapRecipientProperties_useDefaults_iff order.recipient
  have returned := mapReturnProperties_useDefaults order
  have service : orDefault order.useDefaults.serviceType "SDD" = orDefault order.serviceType "SDD" ↔
      order.serviceType.isSome := by
    unfold NormalizedCreateOrderRequest.useDefaults
    rw [orDefault_getD_iff order.serviceType (by decide)]
    simp
  rw [← recipient, ← service]
  unfold toManifestPayload
  simp only [shipper, returned]
  constructor
  · intro same
    injection same with item _
    injection item
    refine ⟨?_, ?_⟩ <;> assumption
  · rintro ⟨sameRecipient, sameService⟩
    rw [sameService]
    simp [NormalizedCreateOrderRequest.useDefaults, sameRecipient]

/-- An order that names neither is accepted, and booked as a delivery to a seller by a service
other than the one the mapper falls back to. -/
theorem manifest_defaults_differ :
    createOrderSchema ⟨fun _ => true, fun _ => true⟩ (parcel "ORD-1" "urbanebolt") = true ∧
      toManifestPayload "UEBCUS0008" 0 (parcel "ORD-1" "urbanebolt").useDefaults ≠
        toManifestPayload "UEBCUS0008" 0 (parcel "ORD-1" "urbanebolt") := by
  decide

theorem Number.truthy_iff (value : Number) : value.truthy = true ↔ value ≠ 0 := by
  obtain ⟨mantissa, exponent, canonical⟩ := value
  have zero : (0 : Number) = ⟨0, 0, by simp⟩ := by decide
  rw [Number.truthy, decide_eq_true_iff, zero, Ne, Ne, Number.mk.injEq]
  refine not_congr ⟨fun none => ⟨none, ?_⟩, And.left⟩
  rwa [if_pos none] at canonical

theorem numberOr_eq_iff {value fallback : Number} : numberOr value fallback = value ↔
    value ≠ 0 ∨ fallback = value := by
  unfold numberOr
  split
  · next truthy => exact iff_of_true rfl (.inl ((Number.truthy_iff value).mp truthy))
  · next falsy => simp [(Number.truthy_iff value).not_left.mp falsy]

theorem ne_zero_of_aboveZero {value : Number} (above : aboveZero value = true) : value ≠ 0 := by
  rintro rfl
  exact absurd above (by decide)

structure CarriesNumbers (order : NormalizedCreateOrderRequest) (item : UrbaneBoltManifestItem) :
    Prop where
  weight : item.weight = order.packageDetails.weightKg
  length : item.length = order.packageDetails.lengthCm
  breadth : item.breadth = order.packageDetails.breadthCm
  height : item.height = order.packageDetails.heightCm
  pieces : item.pieces = order.packageDetails.itemsCount
  itemQuantity : item.itemQuantity = order.packageDetails.itemsCount
  declaredValue : item.declaredValue = order.paymentDetails.declaredValue
  collectableValue : item.collectableValue =
    if order.paymentDetails.paymentMode = .cod then order.paymentDetails.collectableAmount else 0
  invoiceValue : ∀ invoice ∈ order.invoiceDetails, ∀ value ∈ invoice.invoiceValue,
    item.invoiceValue = value

theorem collectableValueOf_eq (payment : PaymentDetails) : collectableValueOf payment =
    if payment.paymentMode = .cod then payment.collectableAmount else 0 := by
  unfold collectableValueOf payModeOf
  by_cases cash : payment.paymentMode = .cod
  · rw [if_pos cash, if_pos cash, if_pos rfl, numberOr_eq_iff]
    exact (eq_or_ne _ _).symm.imp_right Eq.symm
  · rw [if_neg cash, if_neg cash, if_neg (by decide)]

theorem invoiceValueOf_eq_iff {invoice : InvoiceDetails} {value : Number} (payment : PaymentDetails)
    (stated : invoice.invoiceValue = some value) :
    invoiceValueOf (some invoice) payment = value ↔ value ≠ 0 := by
  unfold invoiceValueOf
  rw [Option.bind_some, stated]
  change (if value.truthy then value else numberOr payment.declaredValue 100) = value ↔ _
  split
  · next truthy => exact iff_of_true rfl ((Number.truthy_iff value).mp truthy)
  · next falsy =>
    have zero : value = 0 := (Number.truthy_iff value).not_left.mp falsy
    subst zero
    refine iff_of_false (fun same => ?_) (fun ne => ne rfl)
    unfold numberOr at same
    split at same
    · next declared => exact (Number.truthy_iff _).mp declared same
    · exact absurd same (by decide)

/-- The manifest states the numbers of an accepted order exactly if neither the declared value nor the
value of the invoice is given as zero. -/
theorem manifest_carriesNumbers_iff {formats : Formats} {order : NormalizedCreateOrderRequest}
    (accepted : createOrderSchema formats order = true) (customerCode : String) (now : Int) :
    (∀ item ∈ toManifestPayload customerCode now order, CarriesNumbers order item) ↔
      order.paymentDetails.declaredValue ≠ 0 ∧
        ∀ invoice ∈ order.invoiceDetails, invoice.invoiceValue ≠ some 0 := by
  have packaged : packageDetailsSchema order.packageDetails = true := by
    simp only [createOrderSchema, Bool.and_eq_true] at accepted
    exact accepted.1.1.1.2
  simp only [packageDetailsSchema, Bool.and_eq_true] at packaged
  obtain ⟨⟨⟨⟨⟨⟨weight, length⟩, breadth⟩, height⟩, -⟩, count⟩, -⟩ := packaged
  rw [toManifestPayload, List.forall_mem_singleton]
  constructor
  · intro carries
    refine ⟨fun zero => ?_, fun invoice given zero => ?_⟩
    · have declared := carries.declaredValue
      rw [numberOr_eq_iff, zero] at declared
      exact absurd declared (by decide)
    · have value := carries.invoiceValue invoice given 0 zero
      rw [Option.mem_def.mp given] at value
      exact (invoiceValueOf_eq_iff _ zero).mp value rfl
  · rintro ⟨declared, invoiced⟩
    have kept : ∀ {value fallback : Number}, aboveZero value = true →
        numberOr value fallback = value :=
      fun above => numberOr_eq_iff.mpr (.inl (ne_zero_of_aboveZero above))
    refine ⟨kept weight, kept length, kept breadth, kept height, kept count, kept count,
      numberOr_eq_iff.mpr (.inl declared), collectableValueOf_eq _, ?_⟩
    intro invoice given value stated
    rw [Option.mem_def.mp given]
    refine (invoiceValueOf_eq_iff _ stated).mpr ?_
    rintro rfl
    exact invoiced invoice given stated

theorem manifest_carriesNumbers_parcel :
    createOrderSchema ⟨fun _ => true, fun _ => true⟩ (parcel "ORD-1" "urbanebolt") = true ∧
      ∀ item ∈ toManifestPayload "UEBCUS0008" 0 (parcel "ORD-1" "urbanebolt"),
        CarriesNumbers (parcel "ORD-1" "urbanebolt") item := by
  have accepted : createOrderSchema ⟨fun _ => true, fun _ => true⟩ (parcel "ORD-1" "urbanebolt") =
    true := by decide
  refine ⟨accepted, (manifest_carriesNumbers_iff accepted _ _).mpr ⟨by decide, ?_⟩⟩
  intro invoice given
  contradiction

/-- A parcel without value is declared at a hundred. -/
theorem manifest_declares_hundred :
    ¬ ∀ (formats : Formats) (order : NormalizedCreateOrderRequest) (customerCode : String) (now : Int),
      createOrderSchema formats order = true →
        ∀ item ∈ toManifestPayload customerCode now order, CarriesNumbers order item := by
  intro claim
  have carried := claim ⟨fun _ => true, fun _ => true⟩
    { parcel "ORD-1" "urbanebolt" with paymentDetails := ⟨.prepaid, 0, 0⟩ } "UEBCUS0008" 0 (by decide)
    _ List.mem_cons_self
  exact absurd carried.declaredValue (by decide)

end CourierPlatform
