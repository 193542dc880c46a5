import Mathlib.Data.List.DropRight
import Mathlib.Data.List.TakeWhile
import CourierPlatform.Model.Registry

/-! Which adapter `CourierRegistry.get` finds after any sequence of registrations. `register` lowers the
name only; the lookups trim it as well. -/
namespace CourierPlatform

/-- `toLowerCase` makes no difference between an ASCII letter and its capital, and leaves white space
where it is. -/
structure JsText.LowerCase (js : JsText) : Prop where
  ascii : ∀ s t : String, s.toList.map Char.toLower = t.toList.map Char.toLower →
    js.toLowerCase s = js.toLowerCase t
  trim : ∀ s, js.trim (js.toLowerCase s) = js.toLowerCase (js.trim s)
  space : ∀ s, js.trim (js.toLowerCase s) = js.toLowerCase s → js.trim s = s

namespace JsText

theorem trim_trim (js : JsText) (s : String) : js.trim (js.trim s) = js.trim s := by
  have kept : (((s.toList.dropWhile js.isSpace).rdropWhile js.isSpace).dropWhile js.isSpace) =
      (s.toList.dropWhile js.isSpace).rdropWhile js.isSpace := by
    refine List.dropWhile_eq_self_iff.mpr fun filled => ?_
    have first := (List.rdropWhile_prefix js.isSpace (l := s.toList.dropWhile js.isSpace)).getElem filled
    rw [first]
    exact List.dropWhile_get_zero_not _ _ _
  have twice := List.rdropWhile_idempotent js.isSpace (s.toList.dropWhile js.isSpace)
  unfold trim
  rw [String.toList_ofList]
  change String.ofList (List.rdropWhile _ (List.dropWhile _ (List.rdropWhile _ _))) = _
  rw [kept, twice]
  rfl

theorem ascii_isSpace_le {c : Char} (blank : ascii.isSpace c = true) : c.val.toNat ≤ 32 := by
  rcases ascii_isSpace_cases blank with rfl | rfl | rfl | rfl | rfl | rfl <;> decide

theorem ascii_isSpace_toLower (c : Char) : ascii.isSpace c.toLower = ascii.isSpace c := by
  unfold Char.toLower
  split
  · next capital =>
    have low : 65 ≤ c.val.toNat := UInt32.le_iff_toNat_le.mp capital.1
    have high : c.val.toNat ≤ 90 := UInt32.le_iff_toNat_le.mp capital.2
    have small : (c.val + ('a'.val - 'A'.val)).toNat = c.val.toNat + 32 := by
      rw [UInt32.toNat_add]
      change (c.val.toNat + 32) % 4294967296 = _
      omega
    have filled : ∀ d : Char, 32 < d.val.toNat → ascii.isSpace d = false := fun d above =>
      Bool.eq_false_iff.mpr fun blank => absurd (ascii_isSpace_le blank) (by omega)
    rw [filled c (by omega)]
    exact filled _ (by change 32 < (c.val + ('a'.val - 'A'.val)).toNat; omega)
  · rfl

theorem ascii_trim_toLowerCase (s : String) :
    ascii.trim (ascii.toLowerCase s) = ascii.toLowerCase (ascii.trim s) := by
  have same : ascii.isSpace ∘ Char.toLower = ascii.isSpace := funext ascii_isSpace_toLower
  have small : ∀ text, ascii.toLowerCase text = String.ofList (text.toList.map Char.toLower) :=
    fun _ => rfl
  rw [small, small, trim, trim, String.toList_ofList, String.toList_ofList, List.dropWhile_map, same,
    ← List.map_reverse, List.dropWhile_map, same, List.map_reverse]

theorem ascii_lowerCase : ascii.LowerCase where
  ascii s t same := by simp [JsText.ascii, same]
  trim := ascii_trim_toLowerCase
  space s kept := by
    rw [ascii_trim_toLowerCase] at kept
    have size : (ascii.trim s).toList.length = s.toList.length := by
      simpa [ascii] using congrArg (fun text => text.toList.length) kept
    have part : (ascii.trim s).toList <:+: s.toList := by
      rw [trim, String.toList_ofList]
      exact (List.rdropWhile_prefix _ _).isInfix.trans (List.dropWhile_suffix _).isInfix
    exact String.toList_injective (part.eq_of_length size)

/-- The same text up to ASCII letter case and the white space around it. -/
def Variant (js : JsText) (m n : String) : Prop :=
  (js.trim m).toList.map Char.toLower = (js.trim n).toList.map Char.toLower

end JsText

namespace CourierRegistry

section
variable {α : Type} (js : JsText) (name : α → String)

def registered (adapters : List α) : CourierRegistry α :=
  adapters.foldl (fun registry adapter => registry.register js (name adapter) adapter) ⟨[]⟩

/-- The adapter that was registered last of those whose names are `n` up to case and the white space
around it. -/
def latest (adapters : List α) (n : String) : Option α :=
  adapters.reverse.find? fun adapter =>
    js.trim (js.toLowerCase (name adapter)) = js.trim (js.toLowerCase n)

variable {js name}

theorem lookup_set (key other : String) (adapter : α) (entries : List (String × α)) :
    (set key adapter entries).lookup other =
      if other = key then some adapter else entries.lookup other := by
  induction entries with
  | nil =>
    rw [set, List.lookup_cons]
    by_cases same : other = key
    · simp [same]
    · simp [same, beq_false_of_ne same]
  | cons entry rest ih =>
    obtain ⟨first, old⟩ := entry
    by_cases here : first = key
    · subst here
      rw [set, if_pos rfl, List.lookup_cons, List.lookup_cons]
      by_cases same : other = first
      · simp [same]
      · simp [same, beq_false_of_ne same]
    · rw [set, if_neg here, List.lookup_cons, List.lookup_cons, ih]
      by_cases same : other = first
      · simp [same, here]
      · simp [beq_false_of_ne same]

theorem lookup_registered (adapters : List α) (key : String) :
    (registered js name adapters).adapters.lookup key =
      adapters.reverse.find? fun adapter => js.toLowerCase (name adapter) = key := by
  induction adapters using List.reverseRecOn with
  | nil => rfl
  | append_singleton adapters adapter ih =>
    rw [registered, List.foldl_concat, List.reverse_concat, List.find?_cons]
    change (set _ _ (registered js name adapters).adapters).lookup key = _
    rw [lookup_set, ih]
    by_cases same : js.toLowerCase (name adapter) = key
    · simp [same]
    · simp [same, Ne.symm same]

theorem find?_eq_some_iff_of_imp {p q : α → Bool} {list : List α} {a : α}
    (stronger : ∀ b, q b → p b) (first : list.find? p = some a) :
    list.find? q = some a ↔ q a = true := by
  constructor
  · exact List.find?_some
  · intro holds
    obtain ⟨-, before, after, rfl, none⟩ := List.find?_eq_some_iff_append.mp first
    refine List.find?_eq_some_iff_append.mpr ⟨holds, before, after, rfl, fun b mem => ?_⟩
    have not : ¬ p b := by simpa using none b mem
    simpa using fun strong => not (stronger b strong)

theorem exists_latest (js : JsText) {adapters : List α} {n : String} (known : n ∈ adapters.map name) :
    ∃ adapter, latest js name adapters n = some adapter := by
  obtain ⟨adapter, mem, rfl⟩ := List.mem_map.mp known
  refine Option.isSome_iff_exists.mp (List.find?_isSome.mpr ⟨adapter, List.mem_reverse.mpr mem, ?_⟩)
  simp

variable (laws : js.LowerCase)
include laws

theorem trim_toLowerCase_variant {m n : String} (variant : js.Variant m n) :
    js.trim (js.toLowerCase m) = js.trim (js.toLowerCase n) := by
  rw [laws.trim, laws.trim]
  exact laws.ascii _ _ variant

theorem get_variant_iff {adapters : List α} {m n : String} {adapter : α}
    (variant : js.Variant m n) (filled : m ≠ "")
    (last : latest js name adapters n = some adapter) :
    (registered js name adapters).get js m = .ok adapter ↔ js.trim (name adapter) = name adapter := by
  have key := trim_toLowerCase_variant laws variant
  have own : js.trim (js.toLowerCase (name adapter)) = js.trim (js.toLowerCase n) := by
    simpa using List.find?_some last
  have found : (registered js name adapters).adapters.lookup (js.trim (js.toLowerCase m)) =
      some adapter ↔ js.toLowerCase (name adapter) = js.trim (js.toLowerCase m) := by
    rw [lookup_registered, find?_eq_some_iff_of_imp ?_ last, decide_eq_true_iff]
    intro other same
    rw [decide_eq_true_iff] at same ⊢
    rw [same, JsText.trim_trim, key]
  calc (registered js name adapters).get js m = .ok adapter
    _ ↔ (registered js name adapters).adapters.lookup (js.trim (js.toLowerCase m)) = some adapter := by
      rw [get, if_neg filled]
      cases (registered js name adapters).adapters.lookup (js.trim (js.toLowerCase m)) <;> simp
    _ ↔ js.toLowerCase (name adapter) = js.trim (js.toLowerCase (name adapter)) := by
      rw [found, own, key]
    _ ↔ js.trim (name adapter) = name adapter :=
      ⟨fun kept => laws.space _ kept.symm, fun kept => by rw [laws.trim, kept]⟩

omit laws in
theorem ne_empty_of_variant {m n : String} (variant : js.Variant m n) (filled : js.trim n ≠ "") :
    m ≠ "" := by
  rintro rfl
  refine filled (String.toList_eq_nil_iff.mp (List.map_eq_nil_iff.mp variant.symm))

/-- After any registrations under names that are not blank, every variant of a name gets the adapter
registered last for it exactly if that adapter's own name has no white space around it. -/
theorem get_latest_iff (name : α → String) (adapters : List α)
    (filled : ∀ adapter ∈ adapters, js.trim (name adapter) ≠ "") :
    (∀ n ∈ adapters.map name, ∃ adapter, latest js name adapters n = some adapter ∧
      ((∀ m, js.Variant m n → (registered js name adapters).get js m = .ok adapter) ↔
        js.trim (name adapter) = name adapter)) ∧
    ∀ m, (registered js name adapters).has js m = true ↔
      ∃ adapter, (registered js name adapters).get js m = .ok adapter := by
  constructor
  · intro n known
    obtain ⟨adapter, last⟩ := exists_latest js known
    have blank : js.trim n ≠ "" := by
      obtain ⟨other, mem, rfl⟩ := List.mem_map.mp known
      exact filled other mem
    refine ⟨adapter, last, fun finds => ?_, fun kept m variant => ?_⟩
    · exact (get_variant_iff laws rfl (ne_empty_of_variant rfl blank) last).mp (finds n rfl)
    · exact (get_variant_iff laws variant (ne_empty_of_variant variant blank) last).mpr kept
  · intro m
    rw [has_eq_isOk]
    cases (registered js name adapters).get js m <;> simp [Except.isOk, Except.toBool]

end

theorem get_latest_replaced :
    (registered .ascii id ["urbanebolt", "mock", "URBANEBOLT"]).get .ascii " UrbaneBolt " =
      .ok "URBANEBOLT" := by
  obtain ⟨adapter, last, finds⟩ := (get_latest_iff JsText.ascii_lowerCase id
    ["urbanebolt", "mock", "URBANEBOLT"] (by decide)).1 "urbanebolt" (by decide)
  have here : latest .ascii id ["urbanebolt", "mock", "URBANEBOLT"] "urbanebolt" =
      some "URBANEBOLT" := by decide +kernel
  obtain rfl := Option.some.inj (last.symm.trans here)
  have variant : JsText.ascii.Variant " UrbaneBolt " "urbanebolt" := by
    unfold JsText.Variant
    decide
  have kept : JsText.ascii.trim "URBANEBOLT" = "URBANEBOLT" := by decide
  exact finds.mpr kept _ variant

/-- A name with a blank behind it is registered with the blank, and looked up without it. -/
theorem get_spaced_name_unknown :
    ¬ ∀ (js : JsText) (adapters : List Adapter), js.LowerCase →
      (∀ adapter ∈ adapters, js.trim adapter.partnerName ≠ "") →
      ∀ n ∈ adapters.map Adapter.partnerName, ∀ m, js.Variant m n → ∃ adapter,
        latest js Adapter.partnerName adapters n = some adapter ∧
          (registered js Adapter.partnerName adapters).get js m = .ok adapter := by
  intro claim
  obtain ⟨adapter, -, found⟩ := claim .ascii [⟨"custom_express "⟩] JsText.ascii_lowerCase (by decide)
    "custom_express " (by decide) "custom_express " rfl
  have unknown : ((registered .ascii Adapter.partnerName [⟨"custom_express "⟩]).get .ascii
      "custom_express ").isOk = false := by decide
  rw [found] at unknown
  contradiction

end CourierRegistry
end CourierPlatform
