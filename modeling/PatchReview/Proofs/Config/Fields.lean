import Mathlib.Data.List.DropRight
import PatchReview.Config.Reader
import PatchReview.Proofs.Except
import PatchReview.Proofs.Text.Case

/-! The fields of a configuration, one by one: what a field that was read is known to be, and that
what is written of it can be read again. -/
namespace PatchReview

namespace Text

/-- A text with something in it beside blanks. -/
def HasContent (s : String) : Prop := ∃ c ∈ s.toList, isBlank c = false

theorem isEmpty_trim_iff {s : List Char} : (trim s).isEmpty = true ↔ ∀ c ∈ s, isBlank c = true := by
  rw [trim, trimEnd, List.isEmpty_reverse, List.isEmpty_iff, List.dropWhile_eq_nil_iff]
  simp only [List.mem_reverse]
  rw [trimStart, ← List.dropWhile_eq_nil_iff, List.dropWhile_idempotent, List.dropWhile_eq_nil_iff]

theorem hasContent_iff {s : String} : HasContent s ↔ (trim s.toList).isEmpty = false := by
  rw [← Bool.not_eq_true, isEmpty_trim_iff]
  simp [HasContent]

theorem HasContent.uppered {s : String} (h : HasContent s) : HasContent (uppered s) := by
  rw [HasContent, Text.uppered, String.toList_ofList]
  exact exists_not_isBlank_upper h

end Text

open Text (HasContent)
open Finding (optionalText)

namespace Config

section Fields
variable {fields : List (String × Value)} {key field s : String} {v : Value} {o : Option String}
variable {texts : List String} {n default : Int}

theorem readText_eq_ok : readText field v = .ok s ↔ v = .text s ∧ HasContent s := by
  cases v with
  | text t =>
    rw [readText, Value.text.injEq, Text.hasContent_iff]
    split
    · rename_i hblank
      refine iff_of_false ?_ ?_
      · intro h
        cases h
      · rintro ⟨rfl, hcontent⟩
        rw [hblank] at hcontent
        cases hcontent
    · rename_i hcontent
      rw [Except.ok.injEq]
      constructor
      · rintro rfl
        exact ⟨rfl, Bool.not_eq_true _ ▸ hcontent⟩
      · exact And.left
  | null | bool | int | float | list | table | moment =>
    refine iff_of_false ?_ ?_
    · intro h
      cases h
    · rintro ⟨h, -⟩
      cases h

/-- An optional text is absent or has content. -/
theorem readOptional_eq_ok : readOptional fields key field = .ok o ↔
    given? key fields = o.map .text ∧ ∀ s ∈ o, HasContent s := by
  rw [readOptional]
  cases given? key fields with
  | none =>
    cases o with
    | none => simp
    | some s => simp
  | some v =>
    change (readText field v).map some = .ok o ↔ _
    rw [map_eq_ok]
    constructor
    · rintro ⟨s, hread, rfl⟩
      obtain ⟨rfl, hcontent⟩ := readText_eq_ok.1 hread
      refine ⟨rfl, ?_⟩
      rintro _ ⟨⟩
      exact hcontent
    · rintro ⟨hgiven, hcontent⟩
      obtain ⟨s, rfl, rfl⟩ := Option.map_eq_some_iff.1 hgiven.symm
      exact ⟨s, readText_eq_ok.2 ⟨rfl, hcontent s rfl⟩, rfl⟩

theorem given?_of_null (h : Value.field? key fields = some .null) : given? key fields = none := by
  rw [given?, h]
  rfl

theorem given?_of_ne_null (h : Value.field? key fields = some v) (hv : v ≠ .null) :
    given? key fields = some v := by
  rw [given?, h]
  cases v with
  | null => exact absurd rfl hv
  | bool | int | float | text | list | table | moment => rfl

theorem given?_of_optionalText (h : Value.field? key fields = some (optionalText o)) :
    given? key fields = o.map .text := by
  cases o with
  | none => exact given?_of_null h
  | some s => exact given?_of_ne_null h nofun

theorem mapM_map_eq_some {α β γ : Type} {g : α → β} {f : β → Option γ} {k : α → γ}
    (h : ∀ x, f (g x) = some (k x)) (xs : List α) : (xs.map g).mapM f = some (xs.map k) := by
  induction xs with
  | nil => rfl
  | cons x xs ih =>
    rw [List.map_cons, List.mapM_cons, h, ih]
    rfl

theorem readTexts?_of_textsValue (h : Value.field? key fields = some (textsValue texts)) :
    readTexts? fields key field = .ok (some texts) := by
  rw [readTexts?, given?_of_ne_null h nofun, textsValue]
  dsimp only
  rw [mapM_map_eq_some (k := id), List.map_id]
  exact fun _ => rfl

theorem readTexts_of_textsValue (h : Value.field? key fields = some (textsValue texts)) :
    readTexts fields key field = .ok texts := by
  rw [readTexts, readTexts?_of_textsValue h]
  rfl

theorem readTexts?_of_optional {o : Option (List String)}
    (h : Value.field? key fields = some (match o with
      | some texts => textsValue texts
      | none => .null)) : readTexts? fields key field = .ok o := by
  cases o with
  | some texts => exact readTexts?_of_textsValue h
  | none => rw [readTexts?, given?_of_null h]

theorem readInteger_of_int (h : Value.field? key fields = some (.int n)) :
    readInteger fields key field default = .ok n := by
  rw [readInteger, h]

theorem readPositive_eq_ok : readPositive fields key field default = .ok n ↔
    readInteger fields key field default = .ok n ∧ 0 < n := by
  simp only [readPositive, bind_eq_ok, check_eq_ok]
  constructor
  · rintro ⟨m, hread, hpositive, ⟨⟩⟩
    exact ⟨hread, by omega⟩
  · rintro ⟨hread, hpositive⟩
    exact ⟨n, hread, by omega, rfl⟩

theorem readFormat_of_name {f : OutputFormat}
    (h : Value.field? "format" fields = some (.text f.name)) : readFormat fields = .ok f := by
  rw [readFormat, h]
  cases f <;> rfl

theorem readFailOn_of_choice {o : Option Category}
    (h : Value.field? "fail_on" fields = some (optionalText (o.map Category.choice))) :
    readFailOn fields = .ok o := by
  have hgiven := given?_of_optionalText h
  have hread : readOptional fields "fail_on" "fail_on" = .ok (o.map Category.choice) := by
    refine readOptional_eq_ok.2 ⟨hgiven, ?_⟩
    intro s hs
    obtain ⟨c, -, rfl⟩ := Option.map_eq_some_iff.1 hs
    rw [Text.hasContent_iff]
    cases c <;> decide
  rw [readFailOn, hread]
  cases o with
  | none => rfl
  | some c => cases c <;> rfl

theorem readTimeout_eq_ok {o : Option Binary64} (h : readTimeout fields = .ok o) :
    ∀ t ∈ o, t.isNonPositive = false := by
  rw [readTimeout] at h
  split at h
  · simp only [bind_eq_ok, check_eq_ok] at h
    obtain ⟨t, -, hpositive, ⟨⟩⟩ := h
    rintro _ ⟨⟩
    exact Bool.not_eq_true _ ▸ hpositive
  · cases h
    rintro _ ⟨⟩

theorem readTimeout_of_float {o : Option Binary64}
    (h : Value.field? "timeout_seconds" fields = some (match o with
      | some t => .float t
      | none => .null))
    (hpositive : ∀ t ∈ o, t.isNonPositive = false) : readTimeout fields = .ok o := by
  cases o with
  | none =>
    rw [readTimeout, given?_of_null h]
    rfl
  | some t =>
    rw [readTimeout, given?_of_ne_null h nofun]
    refine bind_eq_ok.2 ⟨t, rfl, check_eq_ok.2 ⟨?_, rfl⟩⟩
    rw [hpositive t rfl]
    exact Bool.false_ne_true

/-- An expression is accepted if and only if it can be read. -/
theorem checkExpression_eq_ok {text : String} :
    checkExpression field text = .ok () ↔ ∃ node, Pattern.compile? text = .ok node := by
  rw [checkExpression]
  cases Pattern.compile? text with
  | ok node => exact iff_of_true rfl ⟨node, rfl⟩
  | error e =>
    refine iff_of_false ?_ ?_
    · intro h
      cases e <;> cases h
    · rintro ⟨node, h⟩
      cases h

theorem readTable_of_table {inner : List (String × Value)}
    (h : Value.field? key fields = some (.table inner)) : readTable fields key = .ok inner := by
  rw [readTable, given?_of_ne_null h nofun]

end Fields

end Config
end PatchReview
