import CourierPlatform.Js.Number

/-! JSON values as the program sees them after parsing, with the three
operations of the language it applies to them: truthiness, `String(value)` and
property reads. -/
namespace CourierPlatform.Js

inductive Json where
  | null
  | bool (value : Bool)
  | number (value : Number)
  | string (value : String)
  | array (items : List Json)
  | object (fields : List (String × Json))

namespace Json

mutual
def same : Json → Json → Bool
  | .null, .null => true
  | .bool a, .bool b => a = b
  | .number a, .number b => a = b
  | .string a, .string b => a = b
  | .array a, .array b => sameItems a b
  | .object a, .object b => sameFields a b
  | _, _ => false

def sameItems : List Json → List Json → Bool
  | [], [] => true
  | a :: as, b :: bs => same a b && sameItems as bs
  | _, _ => false

def sameFields : List (String × Json) → List (String × Json) → Bool
  | [], [] => true
  | (k, a) :: as, (l, b) :: bs => k = l && same a b && sameFields as bs
  | _, _ => false
end

mutual
theorem same_iff : ∀ a b : Json, same a b = true ↔ a = b
  | .null, b => by cases b <;> simp [same]
  | .bool _, b => by cases b <;> simp [same]
  | .number _, b => by cases b <;> simp [same]
  | .string _, b => by cases b <;> simp [same]
  | .array items, b => by
    cases b with
    | array other => simpa [same] using sameItems_iff items other
    | _ => simp [same]
  | .object fields, b => by
    cases b with
    | object other => simpa [same] using sameFields_iff fields other
    | _ => simp [same]

theorem sameItems_iff : ∀ a b : List Json, sameItems a b = true ↔ a = b
  | [], b => by cases b <;> simp [sameItems]
  | head :: tail, b => by
    cases b with
    | nil => simp [sameItems]
    | cons other rest => simp [sameItems, same_iff head other, sameItems_iff tail rest]

theorem sameFields_iff : ∀ a b : List (String × Json), sameFields a b = true ↔ a = b
  | [], b => by cases b <;> simp [sameFields]
  | (key, value) :: tail, b => by
    cases b with
    | nil => simp [sameFields]
    | cons other rest =>
      simp [sameFields, same_iff value other.2, sameFields_iff tail rest, Prod.ext_iff]
end

instance : DecidableEq Json := fun a b => decidable_of_iff _ (same_iff a b)

def truthy : Json → Bool
  | .null => false
  | .bool value => value
  | .number value => value.truthy
  | .string value => value ≠ ""
  | .array _ => true
  | .object _ => true

def isNull : Json → Bool
  | .null => true
  | _ => false

mutual
/-- `String(value)`. Arrays are joined with commas, `null` items printing as nothing. An
object with a `toString` of its own, which no parsed text makes callable, has no string form
and the conversion throws. -/
def toText? : Json → Option String
  | .null => some "null"
  | .bool value => some (if value then "true" else "false")
  | .number value => some value.toString
  | .string value => some value
  | .array items => (itemTexts? items).map (",".intercalate ·)
  | .object fields => if fields.any (·.1 = "toString") then none else some "[object Object]"

def itemTexts? : List Json → Option (List String)
  | [] => some []
  | item :: rest => do
    let text ← toText? item
    let texts ← itemTexts? rest
    some ((if item.isNull then "" else text) :: texts)
end

def field? (name : String) : List (String × Json) → Option Json
  | [] => none
  | (key, value) :: rest => if key = name then some value else field? name rest

/-- `value.name`. No value but an object has one of the names that the program reads. -/
def get? (name : String) : Json → Option Json
  | .object fields => field? name fields
  | _ => none

def isText : Json → Bool
  | .string _ => true
  | _ => false

def firstTruthy : List (Option Json) → Option Json
  | [] => none
  | some value :: rest => if value.truthy then some value else firstTruthy rest
  | none :: rest => firstTruthy rest

theorem firstTruthy_append (alternatives others : List (Option Json)) :
    firstTruthy (alternatives ++ others) = (firstTruthy alternatives).or (firstTruthy others) := by
  induction alternatives with
  | nil => rfl
  | cons head rest ih =>
    cases head with
    | none => exact ih
    | some value =>
      simp only [List.cons_append, firstTruthy]
      split
      · rfl
      · exact ih

theorem mem_of_firstTruthy {alternatives : List (Option Json)} {value : Json}
    (h : firstTruthy alternatives = some value) : some value ∈ alternatives := by
  induction alternatives with
  | nil => contradiction
  | cons head rest ih =>
    cases head with
    | none => exact List.mem_cons_of_mem _ (ih h)
    | some first =>
      rw [firstTruthy] at h
      split at h
      · exact h ▸ List.mem_cons_self
      · exact List.mem_cons_of_mem _ (ih h)

end Json
end CourierPlatform.Js
