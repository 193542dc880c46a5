import CourierPlatform.Library.Words
import CourierPlatform.Model.UrbaneBoltMapper

/-! Where `mapStatus` finds its keywords. The separators are taken out before it looks, so a keyword may
begin in one word and end in another. -/
namespace CourierPlatform
open Library

theorem JsText.includes_iff {text part : String} :
    JsText.includes text part = true ↔ part.toList <:+: text.toList := by
  simp only [includes, List.any_eq_true, List.mem_tails, List.isPrefixOf_iff_prefix,
    List.infix_iff_prefix_suffix]
  constructor
  · rintro ⟨tail, suffix, begins⟩
    exact ⟨tail, begins, suffix⟩
  · rintro ⟨tail, begins, suffix⟩
    exact ⟨tail, suffix, begins⟩

namespace UrbaneBoltMapper

def failureWords : List String := ["FAIL", "REJECT", "RTO", "RETURN", "EXCEPTION"]

def isSeparator (js : JsText) (c : Char) : Bool := js.isSpace c || c = '-' || c = '_'

def words (js : JsText) (rawStatus : String) : List (List Char) :=
  (js.toUpperCase rawStatus).toList.splitOnP (isSeparator js)

/-- None of the keywords lies inside a word, and the two others are nowhere in the text. -/
structure NoFailure (js : JsText) (rawStatus : String) : Prop where
  inside : ∀ keyword ∈ failureWords, ∀ word ∈ words js rawStatus, ¬ keyword.toList <:+: word
  undeliver : JsText.includes (normalizeStatus js rawStatus) "UNDELIVER" = false
  notDeliver : JsText.includes (normalizeStatus js rawStatus) "NOTDELIVER" = false

section
variable {js : JsText} {rawStatus : String}

theorem toList_normalizeStatus :
    (normalizeStatus js rawStatus).toList = (words js rawStatus).flatten := by
  rw [words, flatten_splitOnP, normalizeStatus, String.toList_ofList]
  rfl

theorem mapStatus_failed_iff : mapStatus js rawStatus = .failed ↔
    ∃ keyword ∈ "UNDELIVER" :: "NOTDELIVER" :: failureWords,
      JsText.includes (normalizeStatus js rawStatus) keyword = true := by
  have others : ∀ entry ∈ statusKeywords.tail, entry.1 ≠ .failed := by decide
  have first : statusKeywords =
      (.failed, "UNDELIVER" :: "NOTDELIVER" :: failureWords) :: statusKeywords.tail := rfl
  rw [← List.any_eq_true]
  unfold mapStatus
  rw [first]
  cases looked : ("UNDELIVER" :: "NOTDELIVER" :: failureWords).any
      (JsText.includes (normalizeStatus js rawStatus)) with
  | true => simp only [List.find?_cons, looked, Option.map_some, Option.getD_some]
  | false =>
    simp only [List.find?_cons, looked, Bool.false_eq_true, iff_false]
    cases found : statusKeywords.tail.find? fun entry =>
        entry.2.any (JsText.includes (normalizeStatus js rawStatus)) with
    | none => simp
    | some entry => simpa using others entry (List.mem_of_find?_eq_some found)

/-- A keyword that lies inside no word is found exactly if it spans a boundary. -/
theorem includes_iff_straddles {keyword : String} (filled : keyword ≠ "")
    (inside : ∀ word ∈ words js rawStatus, ¬ keyword.toList <:+: word) :
    JsText.includes (normalizeStatus js rawStatus) keyword = true ↔
      Straddles keyword.toList (words js rawStatus) := by
  rw [JsText.includes_iff, toList_normalizeStatus, infix_flatten_iff (by simpa using filled)]
  refine or_iff_right ?_
  rintro ⟨word, mem, occurs⟩
  exact inside word mem occurs

/-- A text without a failure in any of its words is not taken for a failed delivery exactly if no keyword
spans a boundary of its words. -/
theorem mapStatus_not_failed_iff (calm : NoFailure js rawStatus) :
    mapStatus js rawStatus ≠ .failed ↔
      ∀ keyword ∈ failureWords, ¬ Straddles keyword.toList (words js rawStatus) := by
  have filled : ∀ keyword ∈ failureWords, keyword ≠ "" := by decide
  rw [Ne, mapStatus_failed_iff, List.exists_mem_cons_iff, List.exists_mem_cons_iff, calm.undeliver,
    calm.notDeliver]
  simp only [Bool.false_eq_true, false_or, not_exists, not_and]
  refine forall₂_congr fun keyword mem => not_congr ?_
  exact includes_iff_straddles (filled keyword mem) (calm.inside keyword mem)

end

theorem mapStatus_not_failed_reached : mapStatus .ascii "Reached Delhi hub" = .inTransit ∧
    ∀ keyword ∈ failureWords, ¬ Straddles keyword.toList (words .ascii "Reached Delhi hub") := by
  refine ⟨by decide, ?_⟩
  exact (mapStatus_not_failed_iff ⟨by decide, by decide, by decide⟩).mp (by decide)

/-- The end of one word and the beginning of the next read `RTO`. -/
theorem mapStatus_fails_across_words :
    ¬ ∀ (js : JsText) (rawStatus : String), NoFailure js rawStatus →
      mapStatus js rawStatus ≠ .failed := by
  intro claim
  exact claim .ascii "Departed air to hub" ⟨by decide, by decide, by decide⟩ (by decide)

end UrbaneBoltMapper
end CourierPlatform
