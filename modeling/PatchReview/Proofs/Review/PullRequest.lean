import PatchReview.Proofs.Intent.Title
import PatchReview.Review.PullRequest

/-! Pull requests given as data. Their labels are read twice: into a list when the pull request is
read, and from any value when a change is classified. Where the first reader lists the labels it
changes nothing about the purpose; it refuses scalars other than zero, which the second passes over.
The other way to no purpose is a title whose type word is written with a foreign letter. -/
namespace PatchReview

namespace ChangeIntent
open Text

theorem mentions_of_short {words : List String} {label : List Char}
    (h : ∀ word ∈ words, label.length < word.toList.length) : mentions words label = false := by
  rw [mentions, occursAny, List.any_eq_false]
  intro word hword hoccurs
  have hle := (occurs_iff.1 hoccurs).length_le
  have hlt := h word hword
  omega

/-- Labels of one or two letters say nothing. -/
theorem withLabels_of_short {labels : List (List Char)} (h : ∀ label ∈ labels, label.length < 3)
    (intent : ChangeIntent) : intent.withLabels labels = intent.withLabels [] := by
  have hmentions : ∀ words : List String, (∀ word ∈ words, 3 ≤ word.toList.length) →
      ∀ label ∈ labels, mentions words label = false := by
    intro words hwords label hlabel
    refine mentions_of_short fun word hword => ?_
    have hshort := h label hlabel
    have hlong := hwords word hword
    omega
  have hany : ∀ words : List String, (∀ word ∈ words, 3 ≤ word.toList.length) →
      labels.any (mentions words) = false := by
    intro words hwords
    rw [List.any_eq_false]
    intro label hlabel
    rw [hmentions words hwords label hlabel]
    exact Bool.false_ne_true
  have hareas : labels.flatMap labelAreas = [] := by
    rw [List.flatMap_eq_nil_iff]
    intro label hlabel
    rw [labelAreas, hmentions ["breaking"] (by decide) label hlabel,
      hmentions ["security"] (by decide) label hlabel]
    rfl
  rw [withLabels, hany ["wip", "draft"] (by decide), hany ["breaking"] (by decide),
    hany ["security"] (by decide), hany ["hotfix", "urgent"] (by decide), hareas]
  rfl

theorem length_lower_letter (c : Char) : (lower [c]).length < 3 := by
  rw [← List.length_map plainSigma, map_plainSigma_lower, List.flatMap_singleton, plainLower]
  split_ifs
  · decide
  · decide
  · exact (by decide : 1 < 3)

theorem labelNames_texts (names : List String) :
    labelNames (.list (names.map .text)) = names.map fun s => lower s.toList := by
  have hnames : (names.map Value.text).filterMap labelName? = names := by
    rw [List.filterMap_map]
    exact List.filterMap_some
  rw [labelNames, hnames]

theorem labelNames_of_isEmptyOrZero {v : Value} (h : v.isEmptyOrZero = true) :
    labelNames v = [] := by
  cases v with
  | list items => rw [List.isEmpty_iff.1 h]; rfl
  | table fields => rw [List.isEmpty_iff.1 h]; rfl
  | null | bool _ | int _ | float _ | text _ | moment _ => rfl

end ChangeIntent

namespace PullRequest
open ChangeIntent

/-- Values that are not absent and hold nothing that could be listed. -/
inductive IsUnlisted : Value → Prop
  | bool : IsUnlisted (.bool true)
  | int {n : Int} : n ≠ 0 → IsUnlisted (.int n)
  | float {x : Binary64} : x.isZero = false → IsUnlisted (.float x)
  | moment {written : String} : IsUnlisted (.moment written)

theorem readLabels?_eq_none_iff {v : Value} : readLabels? v = none ↔ IsUnlisted v := by
  unfold readLabels?
  by_cases hempty : v.isEmptyOrZero = true
  · rw [if_pos hempty]
    refine iff_of_false (fun h => nomatch h) ?_
    rintro (_ | hn | hx | _)
    · cases hempty
    · exact hn (eq_of_beq hempty)
    · exact absurd (hx.symm.trans hempty) Bool.false_ne_true
    · cases hempty
  · rw [if_neg hempty]
    cases v with
    | list _ | table _ | text _ => exact iff_of_false (fun h => nomatch h) (fun h => nomatch h)
    | null => exact absurd rfl hempty
    | bool b =>
      cases b with
      | false => exact absurd rfl hempty
      | true => exact iff_of_true rfl .bool
    | int n =>
      refine iff_of_true rfl (.int ?_)
      rintro rfl
      exact hempty rfl
    | float x => exact iff_of_true rfl (.float (Bool.not_eq_true _ ▸ hempty))
    | moment _ => exact iff_of_true rfl .moment

/-- Labels that are listed say what they said before. -/
theorem withLabels_of_readLabels? {v : Value} {names : List String} (h : readLabels? v = some names)
    (intent : ChangeIntent) :
    intent.withLabels (labelNames (.list (names.map .text))) =
      intent.withLabels (labelNames v) := by
  rw [labelNames_texts]
  unfold readLabels? at h
  by_cases hempty : v.isEmptyOrZero = true
  · rw [if_pos hempty] at h
    cases h
    rw [labelNames_of_isEmptyOrZero hempty]
    rfl
  · rw [if_neg hempty] at h
    cases v with
    | list items =>
      cases h
      rfl
    | table fields =>
      cases h
      rw [List.map_map]
      rfl
    | text s =>
      -- A text is no list of labels; its letters, one by one, say nothing either.
      cases h
      rw [withLabels_of_short]
      · rfl
      · intro label hlabel
        rw [List.map_map] at hlabel
        obtain ⟨c, -, rfl⟩ := List.mem_map.1 hlabel
        rw [Function.comp_apply, String.toList_ofList]
        exact length_lower_letter c
    | null | bool _ | int _ | float _ | moment _ => cases h

/-- The title in a table, where it is a text. -/
def titleOf (fields : List (String × Value)) : String :=
  match Value.field? "title" fields with
  | some (.text s) => s
  | _ => ""

/-- The labels in a table, in the form that they have there. -/
def labelsOf (fields : List (String × Value)) : Value :=
  (Value.field? "labels" fields).getD .null

/-- Data from which no purpose is read: their labels cannot be listed, or the type word of the title
is written with a foreign letter. -/
inductive IsRefused : Value → Prop
  | labels {fields : List (String × Value)} :
      IsUnlisted (labelsOf fields) → IsRefused (.table fields)
  | title {fields : List (String × Value)} :
      HasForeignWord (titleOf fields).toList → IsRefused (.table fields)

theorem ofFields_eq (fields : List (String × Value)) : ofFields fields =
    match readLabels? (labelsOf fields) with
    | none => .error .labelsNotListed
    | some labels => .ok ⟨titleOf fields, .list (labels.map .text)⟩ := rfl

theorem ofFields_of_unlisted {fields : List (String × Value)} (h : IsUnlisted (labelsOf fields)) :
    ofFields fields = .error .labelsNotListed := by
  rw [ofFields_eq, readLabels?_eq_none_iff.2 h]

theorem ofFields_of_listed {fields : List (String × Value)} (h : ¬ IsUnlisted (labelsOf fields)) :
    ∃ names, readLabels? (labelsOf fields) = some names ∧
      ofFields fields = .ok ⟨titleOf fields, .list (names.map .text)⟩ := by
  rw [← readLabels?_eq_none_iff] at h
  obtain ⟨names, hnames⟩ := Option.ne_none_iff_exists'.1 h
  refine ⟨names, hnames, ?_⟩
  rw [ofFields_eq, hnames]

/-- Once the labels are listed, the purpose is that of the title and the labels as they are. -/
theorem intentOfValue_of_listed {fields : List (String × Value)}
    (h : ¬ IsUnlisted (labelsOf fields)) :
    intentOfValue (.table fields) =
      ((classify (titleOf fields) (labelsOf fields)).map some).mapError .unknownType := by
  obtain ⟨names, hnames, hfields⟩ := ofFields_of_listed h
  have hclassify : classify (titleOf fields) (.list (names.map .text)) =
      classify (titleOf fields) (labelsOf fields) := by
    rw [classify, classify]
    congr 1
    funext intent
    exact withLabels_of_readLabels? hnames intent
  rw [intentOfValue, hfields]
  dsimp only [bind, Except.bind]
  rw [intent, hclassify]
  cases classify (titleOf fields) (labelsOf fields) with
  | error e => rfl
  | ok intent => rfl

theorem exists_intent_of_nothing : ∃ change, (intent {}).map some = .ok change :=
  ⟨_, rfl⟩

/-- The purpose of a change is read from all data, and from a table it is that of the title and the
labels as they are, unless the labels are a scalar other than zero or the type word of the title is
written with a foreign letter. -/
theorem intentOfValue_agrees_iff (m : Value) :
    (∃ change, intentOfValue m = .ok change ∧
      ∀ fields, m = .table fields →
        ∃ intent, change = some intent ∧
          ChangeIntent.classify (titleOf fields) (labelsOf fields) = .ok intent) ↔
      ¬ IsRefused m := by
  cases m with
  | null => exact iff_of_true ⟨none, rfl, fun _ h => nomatch h⟩ (fun h => nomatch h)
  | bool _ | int _ | float _ | text _ | list _ | moment _ =>
    obtain ⟨change, hchange⟩ := exists_intent_of_nothing
    exact iff_of_true ⟨change, hchange, fun _ h => nomatch h⟩ (fun h => nomatch h)
  | table fields =>
    by_cases hunlisted : IsUnlisted (labelsOf fields)
    · refine iff_of_false ?_ (not_not.2 (.labels hunlisted))
      rintro ⟨change, hchange, -⟩
      rw [intentOfValue, ofFields_of_unlisted hunlisted] at hchange
      cases hchange
    · have hrefused : IsRefused (.table fields) ↔ HasForeignWord (titleOf fields).toList := by
        refine ⟨?_, .title⟩
        rintro (hlabels | htitle)
        · exact absurd hlabels hunlisted
        · exact htitle
      rw [hrefused, ← classify_ok_iff (titleOf fields) (labelsOf fields),
        intentOfValue_of_listed hunlisted]
      constructor
      · rintro ⟨change, -, hall⟩
        obtain ⟨intent, -, hintent⟩ := hall fields rfl
        exact ⟨intent, hintent⟩
      · rintro ⟨intent, hintent⟩
        refine ⟨some intent, by rw [hintent]; rfl, ?_⟩
        rintro _ ⟨⟩
        exact ⟨intent, rfl, hintent⟩

/-- A number in the place of the labels is passed over in a change and refused in a pull request;
the long s in a type word is refused in both. -/
theorem intentOfValue_of_number_or_foreign :
    (∃ intent, classify "" (.int 5) = .ok intent) ∧
      intentOfValue (.table [("labels", .int 5)]) = .error .labelsNotListed ∧
      classify "teſt: x" .null = .error ⟨"teſt"⟩ ∧
      intentOfValue (.table [("title", .text "teſt: x")]) = .error (.unknownType ⟨"teſt"⟩) :=
  ⟨⟨_, rfl⟩, rfl, rfl, rfl⟩

end PullRequest
end PatchReview
