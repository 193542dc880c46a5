import Mathlib.Logic.Relation
import CourierPlatform.Library.Lists
import CourierPlatform.Proofs.StatusText

/-! How `mapStatus` answers for a text that stands inside another one, and for two texts that differ in
their separators and the case of their letters only. -/
namespace CourierPlatform
open Library

/-- `toUpperCase` maps every character by itself, of the ASCII characters only the small letters, and no
white space. -/
structure JsText.UpperCase (js : JsText) : Prop where
  append : ∀ s t, js.toUpperCase (s ++ t) = js.toUpperCase s ++ js.toUpperCase t
  ascii : ∀ c : Char, c.toNat < 128 →
    js.toUpperCase (String.singleton c) = String.singleton c.toUpper
  space : ∀ c, js.isSpace c → js.toUpperCase (String.singleton c) = String.singleton c

theorem JsText.ascii_upperCase : JsText.ascii.UpperCase where
  append s t := by simp [JsText.ascii]
  ascii c _ := by simp [JsText.ascii]
  space c blank := by
    rcases JsText.ascii_isSpace_cases blank with rfl | rfl | rfl | rfl | rfl | rfl <;> decide

namespace UrbaneBoltMapper

def statusPriority : List ShipmentStatus :=
  [.failed, .cancelled, .inTransit, .delivered, .pickedUp, .created]

/-- The place of a status among them; none comes before the one at `0`. -/
def priority (status : ShipmentStatus) : Nat := statusPriority.idxOf status

/-- A separator put in somewhere, or the case of one letter changed. -/
inductive Respelled (js : JsText) : String → String → Prop where
  | separator (before after : String) (c : Char) : isSeparator js c →
    Respelled js (before ++ after) (before ++ String.singleton c ++ after)
  | letterCase (before after : String) (c d : Char) : c.toUpper = d.toUpper →
    Respelled js (before ++ String.singleton c ++ after) (before ++ String.singleton d ++ after)

theorem toUpper_cases (c : Char) : c.toUpper = c ∨ c.toNat < 128 ∧ c.toUpper.toNat < 128 := by
  unfold Char.toUpper
  split
  · next small =>
    have low : 97 ≤ c.val.toNat := UInt32.le_iff_toNat_le.mp small.1
    have high : c.val.toNat ≤ 122 := UInt32.le_iff_toNat_le.mp small.2
    refine .inr ⟨?_, ?_⟩
    · change c.val.toNat < 128
      omega
    · change (c.val + ('A'.val - 'a'.val)).toNat < 128
      rw [UInt32.toNat_add]
      change (c.val.toNat + 4294967264) % 4294967296 < 128
      omega
  · exact .inl rfl

section
variable {js : JsText}

theorem priority_mapStatus (rawStatus : String) :
    priority (mapStatus js rawStatus) = statusKeywords.findIdx fun entry =>
      entry.2.any (JsText.includes (normalizeStatus js rawStatus)) := by
  have distinct : (statusKeywords.map Prod.fst ++ [ShipmentStatus.created]).Nodup := by decide
  exact idxOf_find? distinct _

theorem priority_mono {part whole : String}
    (inside : (normalizeStatus js part).toList <:+: (normalizeStatus js whole).toList) :
    priority (mapStatus js whole) ≤ priority (mapStatus js part) := by
  rw [priority_mapStatus, priority_mapStatus]
  refine List.findIdx_le_findIdx fun entry _ found => ?_
  obtain ⟨keyword, mem, includes⟩ := List.any_eq_true.mp found
  refine List.any_eq_true.mpr ⟨keyword, mem, ?_⟩
  exact JsText.includes_iff.mpr ((JsText.includes_iff.mp includes).trans inside)

variable (laws : js.UpperCase)
include laws

theorem normalizeStatus_append (s t : String) :
    normalizeStatus js (s ++ t) = normalizeStatus js s ++ normalizeStatus js t := by
  simp [normalizeStatus, laws.append]

theorem normalizeStatus_separator {c : Char} (separates : isSeparator js c) :
    normalizeStatus js (String.singleton c) = "" := by
  have same : js.toUpperCase (String.singleton c) = String.singleton c := by
    simp only [isSeparator, Bool.or_eq_true, decide_eq_true_eq] at separates
    rcases separates with (space | rfl) | rfl
    · exact laws.space c space
    · exact laws.ascii '-' (by decide)
    · exact laws.ascii '_' (by decide)
  rw [normalizeStatus, same]
  have out : (!(js.isSpace c || c = '-' || c = '_')) = false := by
    rw [← Bool.not_true]
    exact congrArg _ separates
  rw [String.toList_singleton, List.filter_cons_of_neg (by rw [out]; exact Bool.false_ne_true)]
  rfl

theorem toUpperCase_letterCase {c d : Char} (same : c.toUpper = d.toUpper) :
    js.toUpperCase (String.singleton c) = js.toUpperCase (String.singleton d) := by
  have ascii : c = d ∨ c.toNat < 128 ∧ d.toNat < 128 := by
    rcases toUpper_cases c with kept | ⟨here, capital⟩
    · rcases toUpper_cases d with kept' | ⟨there, capital'⟩
      · exact .inl (by rw [← kept, same, kept'])
      · exact .inr ⟨by rw [← kept, same]; exact capital', there⟩
    · rcases toUpper_cases d with kept' | ⟨there, -⟩
      · exact .inr ⟨here, by rw [← kept', ← same]; exact capital⟩
      · exact .inr ⟨here, there⟩
  rcases ascii with rfl | ⟨here, there⟩
  · rfl
  · rw [laws.ascii c here, laws.ascii d there, same]

theorem Respelled.normalizeStatus_eq {s t : String} (respelled : Respelled js s t) :
    normalizeStatus js s = normalizeStatus js t := by
  cases respelled with
  | separator before after c separates =>
    simp only [normalizeStatus_append laws, normalizeStatus_separator laws separates,
      String.append_empty]
  | letterCase before after c d same =>
    have unchanged : normalizeStatus js (String.singleton c) =
        normalizeStatus js (String.singleton d) := by
      rw [normalizeStatus, normalizeStatus, toUpperCase_letterCase laws same]
    simp only [normalizeStatus_append laws, unchanged]

/-- A text maps to no lower status inside another one, and neither separators nor the case of letters
matter, however many of them are changed. -/
theorem mapStatus_monotone_respelled :
    (∀ p s q, priority (mapStatus js (p ++ s ++ q)) ≤ priority (mapStatus js s)) ∧
    ∀ s t, Relation.EqvGen (Respelled js) s t → mapStatus js s = mapStatus js t := by
  constructor
  · intro p s q
    refine priority_mono ⟨(normalizeStatus js p).toList, (normalizeStatus js q).toList, ?_⟩
    simp [normalizeStatus_append laws]
  · intro s t respelled
    have same : normalizeStatus js s = normalizeStatus js t := by
      induction respelled with
      | rel s t respelled => exact respelled.normalizeStatus_eq laws
      | refl s => rfl
      | symm s t _ ih => exact ih.symm
      | trans s t u _ _ first second => exact first.trans second
    unfold mapStatus
    rw [same]

end

theorem mapStatus_undelivered :
    priority (mapStatus .ascii ("un" ++ "delivered" ++ " at hub")) ≤
      priority (mapStatus .ascii "delivered") ∧
    mapStatus .ascii ("out" ++ "for delivery") =
      mapStatus .ascii ("out" ++ String.singleton ' ' ++ "for delivery") := by
  obtain ⟨monotone, blind⟩ := mapStatus_monotone_respelled JsText.ascii_upperCase
  exact ⟨monotone _ _ _, blind _ _ (.rel _ _ (.separator _ _ _ (by decide)))⟩

end UrbaneBoltMapper
end CourierPlatform
