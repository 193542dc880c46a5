import Mathlib.Data.List.Infix
import CourierPlatform.Model.Types

/-! `CourierRegistry`: a map from normalized partner names to adapters. -/
namespace CourierPlatform

/-- The string methods of the language that the program calls. Unicode case
mapping and the white space of `trim` and of `\s` are left to the instance. -/
structure JsText where
  toLowerCase : String → String
  toUpperCase : String → String
  isSpace : Char → Bool

namespace JsText

def trim (js : JsText) (s : String) : String :=
  String.ofList (((s.toList.dropWhile js.isSpace).reverse.dropWhile js.isSpace).reverse)

def includes (text part : String) : Bool := text.toList.tails.any part.toList.isPrefixOf

def ascii : JsText where
  toLowerCase s := String.ofList (s.toList.map Char.toLower)
  toUpperCase s := String.ofList (s.toList.map Char.toUpper)
  isSpace c := [' ', '\t', '\n', Char.ofNat 11, Char.ofNat 12, '\r'].contains c

theorem ascii_isSpace_cases {c : Char} (blank : ascii.isSpace c = true) :
    c = ' ' ∨ c = '\t' ∨ c = '\n' ∨ c = Char.ofNat 11 ∨ c = Char.ofNat 12 ∨ c = '\r' := by
  simpa only [List.mem_cons, List.not_mem_nil, or_false] using List.contains_iff_mem.mp blank

end JsText

/-- The adapters in the insertion order of the underlying `Map`. -/
structure CourierRegistry (α : Type) where
  adapters : List (String × α)

namespace CourierRegistry

variable {α : Type} (js : JsText) (registry : CourierRegistry α)

def getSupportedCouriers : List String := registry.adapters.map Prod.fst

/-- `Map.set`: a key that is present keeps its place and gets the new value. -/
def set (key : String) (adapter : α) : List (String × α) → List (String × α)
  | [] => [(key, adapter)]
  | (other, old) :: rest =>
    if other = key then (key, adapter) :: rest else (other, old) :: set key adapter rest

def register (partnerName : String) (adapter : α) : CourierRegistry α :=
  ⟨set (js.toLowerCase partnerName) adapter registry.adapters⟩

def get (partnerName : String) : Except Thrown α :=
  if partnerName = "" then .error (unknownCourierError "undefined" registry.getSupportedCouriers)
  else
    match registry.adapters.lookup (js.trim (js.toLowerCase partnerName)) with
    | some adapter => .ok adapter
    | none => .error (unknownCourierError partnerName registry.getSupportedCouriers)

def has (partnerName : String) : Bool :=
  if partnerName = "" then false
  else (registry.adapters.lookup (js.trim (js.toLowerCase partnerName))).isSome

theorem has_eq_isOk (partnerName : String) :
    registry.has js partnerName = (registry.get js partnerName).isOk := by
  unfold has get
  split
  · rfl
  · cases registry.adapters.lookup (js.trim (js.toLowerCase partnerName)) <;> rfl

end CourierRegistry

/-- An adapter is known to the services by its partner name only; what its calls
answer is chosen by the courier. -/
structure Adapter where
  partnerName : String
deriving DecidableEq

def initAdapters (js : JsText) : CourierRegistry Adapter :=
  let none : CourierRegistry Adapter := ⟨[]⟩
  (none.register js "urbanebolt" ⟨"urbanebolt"⟩).register js "mock" ⟨"mock"⟩

end CourierPlatform
