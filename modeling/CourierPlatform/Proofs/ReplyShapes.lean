import CourierPlatform.Model.UrbaneBoltMapper
import CourierPlatform.Spec.Schedules

/-! The manifest reply, which comes as an object or as a list of them. The two are read by chains of their
own, of which one knows a field more. -/
namespace CourierPlatform
open Js

namespace UrbaneBoltMapper

section
variable (now : Int) (random : Fin 9000) (fields : List (String × Json))
  (order : NormalizedCreateOrderRequest)

def identifiers (rawResponse : Json) : Except Thrown (String × String) :=
  (toNormalizedCreateResponse now random rawResponse order).map fun response =>
    (response.awbNumber, response.courierOrderId)

def awbAlternatives : List (Option Json) :=
  [Json.field? "awb" fields, Json.field? "awbNumber" fields, Json.field? "awb_number" fields]

def orderIdAlternatives : List (Option Json) :=
  [Json.field? "orderNumber" fields, Json.field? "order_id" fields]

/-- The field that only a bare reply is asked for makes no difference: an AWB stands elsewhere, or the
field is absent or falsy. (Or what it would be replaced by happens to be its text, or neither reply can be
read at all, the order number having no text.) -/
def TrackingNumberIdle : Prop :=
  Json.firstTruthy (awbAlternatives fields) ≠ none ∨
  ∀ value, Json.firstTruthy [Json.field? "tracking_number" fields] = some value →
    (∃ number, Json.firstTruthy (orderIdAlternatives fields) = some number ∧ number.toText? = none) ∨
      ∃ text, value.toText? = some text ∧ (text = "" ∨ text = generatedAwb now random)

def identifiersFrom (alternatives : List (Option Json)) : Except Thrown (String × String) := do
  let awbNumber ← stringOf alternatives ""
  let courierOrderId ← stringOf (orderIdAlternatives fields) order.orderId
  .ok (if awbNumber = "" then generatedAwb now random else awbNumber, courierOrderId)

variable {now random fields order}

theorem identifiers_of_read {rawResponse : Json} {alternatives : List (Option Json)}
    (read : readCreateResponse rawResponse order = do
      let awbNumber ← stringOf alternatives ""
      let courierOrderId ← stringOf (orderIdAlternatives fields) order.orderId
      .ok (awbNumber, courierOrderId)) :
    identifiers now random order rawResponse =
      identifiersFrom now random fields order alternatives := by
  rw [identifiers, toNormalizedCreateResponse, read, identifiersFrom]
  cases stringOf alternatives "" with
  | error e => rfl
  | ok awbNumber => cases stringOf (orderIdAlternatives fields) order.orderId <;> rfl

theorem identifiers_bare : identifiers now random order (.object fields) =
    identifiersFrom now random fields order
      (awbAlternatives fields ++ [Json.field? "tracking_number" fields]) :=
  identifiers_of_read rfl

theorem identifiers_wrapped (items : List Json) :
    identifiers now random order (.array (.object fields :: items)) =
      identifiersFrom now random fields order (awbAlternatives fields) :=
  identifiers_of_read rfl

theorem stringOf_congr {alternatives others : List (Option Json)} {last : String}
    (same : Json.firstTruthy alternatives = Json.firstTruthy others) :
    stringOf alternatives last = stringOf others last := by
  unfold stringOf
  rw [same]

theorem stringOf_error_iff {alternatives : List (Option Json)} {last : String} {e : Thrown} :
    stringOf alternatives last = .error e ↔
      e = .error "Cannot convert object to primitive value" ∧
        ∃ value, Json.firstTruthy alternatives = some value ∧ value.toText? = none := by
  unfold stringOf
  cases Json.firstTruthy alternatives with
  | none => simp
  | some value =>
    cases shown : value.toText? with
    | none => simp [shown, eq_comm]
    | some text => simp [shown]

theorem stringOf_of_none {alternatives : List (Option Json)} {last : String}
    (none : Json.firstTruthy alternatives = none) : stringOf alternatives last = .ok last := by
  rw [stringOf, none]

/-- The two shapes of a reply give the same numbers exactly if nothing hangs on the field that only one
of them is asked for. -/
theorem identifiers_wrapped_iff :
    identifiers now random order (.object fields) =
        identifiers now random order (.array [.object fields]) ↔
      TrackingNumberIdle now random fields := by
  rw [identifiers_bare, identifiers_wrapped, TrackingNumberIdle]
  have chain := Json.firstTruthy_append (awbAlternatives fields) [Json.field? "tracking_number" fields]
  cases stated : Json.firstTruthy (awbAlternatives fields) with
  | some awb =>
    rw [stated, Option.some_or] at chain
    simp only [identifiersFrom, stringOf_congr (chain.trans stated.symm)]
    simp
  | none =>
    rw [stated, Option.none_or] at chain
    rw [identifiersFrom, identifiersFrom, stringOf_congr chain, stringOf_of_none stated]
    cases tracked : Json.firstTruthy [Json.field? "tracking_number" fields] with
    | none => simp [stringOf_of_none tracked]
    | some value =>
      cases read : stringOf (orderIdAlternatives fields) order.orderId with
      | error e =>
        obtain ⟨rfl, unreadable⟩ := stringOf_error_iff.mp read
        cases awb : stringOf [Json.field? "tracking_number" fields] "" with
        | error e =>
          obtain ⟨rfl, -⟩ := stringOf_error_iff.mp awb
          exact iff_of_true rfl (.inr fun _ _ => .inl unreadable)
        | ok awbNumber => exact iff_of_true rfl (.inr fun _ _ => .inl unreadable)
      | ok courierOrderId =>
        have readable : ¬ ∃ number, Json.firstTruthy (orderIdAlternatives fields) = some number ∧
            number.toText? = none := fun unreadable => by
          rw [stringOf_error_iff.mpr ⟨rfl, unreadable⟩] at read
          contradiction
        simp only [stringOf, tracked, readable]
        cases shown : value.toText? with
        | none => simp [shown, bind, Except.bind]
        | some text => by_cases empty : text = "" <;> simp [shown, empty, bind, Except.bind]

end

/-- An AWB under `tracking_number` is taken from the bare reply, and made up for the wrapped one. -/
theorem identifiers_wrapped_ne :
    ¬ ∀ (now : Int) (random : Fin 9000) (fields : List (String × Json))
      (order : NormalizedCreateOrderRequest),
      identifiers now random order (.object fields) =
        identifiers now random order (.array [.object fields]) := by
  intro claim
  have same := claim 0 0 [("tracking_number", .string "TRK9")] (parcel "o1" "urbanebolt")
  have bare : identifiers 0 0 (parcel "o1" "urbanebolt")
      (.object [("tracking_number", .string "TRK9")]) = .ok ("TRK9", "o1") := rfl
  have wrapped : identifiers 0 0 (parcel "o1" "urbanebolt")
      (.array [.object [("tracking_number", .string "TRK9")]]) = .ok ("UB01000", "o1") := rfl
  rw [bare, wrapped] at same
  exact absurd (Except.ok.inj same) (by decide)

end UrbaneBoltMapper
end CourierPlatform
