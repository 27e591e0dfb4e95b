import PatchReview.Detector.Dangerous
import PatchReview.Proofs.Text.Parts

/-! Markup that a line puts into a page. A property is assigned where a single equals sign stands
behind it, and compared where a second one follows the first. The check is content with the first
sign: it takes comparisons for assignments, so that they raise an alarm, and silence one. -/
namespace PatchReview.Dangerous
open Text

/-- An equals sign behind a property, with blanks or nothing in between, and all that follows it. -/
structure EqualsSign (property : String) where
  blanks : List Char
  behind : List Char
  isBlank_blanks : ∀ c ∈ blanks, isBlank c = true

def EqualsSign.text {property : String} (e : EqualsSign property) : List Char :=
  property.toList ++ (e.blanks ++ '=' :: e.behind)

/-- The property stands in the text with one equals sign behind it. -/
def Assigns (property : String) (s : List Char) : Prop :=
  ∃ e : EqualsSign property, e.text <:+ s ∧ e.behind.head? ≠ some '='

/-- The property stands in the text with two equals signs behind it, or more. -/
def Compares (property : String) (s : List Char) : Prop :=
  ∃ e : EqualsSign property, e.text <:+ s ∧ e.behind.head? = some '='

section Search
variable {property : String} {s : List Char} {holds : List Char → Bool}

/-- Whether the text starts with the property and an equals sign before a text that `holds`. -/
def startsSign (property : String) (holds : List Char → Bool) (s : List Char) : Bool :=
  match (after? property s).map trimStart with
  | some ('=' :: behind) => holds behind
  | _ => false

theorem startsSign_iff : startsSign property holds s = true ↔
    ∃ e : EqualsSign property, e.text = s ∧ holds e.behind = true := by
  constructor
  · intro h
    rw [startsSign] at h
    split at h
    · next behind hsign =>
      obtain ⟨rest, hrest, htrim⟩ := Option.map_eq_some_iff.1 hsign
      obtain ⟨blanks, hblanks, -, rfl⟩ := dropWhile_eq_cons.1 htrim
      exact ⟨⟨blanks, behind, hblanks⟩, (after?_eq_some_iff.1 hrest).symm, h⟩
    · cases h
  · rintro ⟨e, rfl, h⟩
    have htrim : trimStart (e.blanks ++ '=' :: e.behind) = '=' :: e.behind :=
      dropWhile_eq_cons.2 ⟨e.blanks, e.isBlank_blanks, by decide, rfl⟩
    rw [startsSign, EqualsSign.text, after?_append, Option.map_some, htrim]
    exact h

theorem somewhere_startsSign_iff : somewhere (startsSign property holds) s = true ↔
    ∃ e : EqualsSign property, e.text <:+ s ∧ holds e.behind = true := by
  rw [somewhere_iff]
  constructor
  · rintro ⟨before, rest, rfl, h⟩
    obtain ⟨e, rfl, hbehind⟩ := startsSign_iff.1 h
    exact ⟨e, ⟨before, rfl⟩, hbehind⟩
  · rintro ⟨e, ⟨before, rfl⟩, hbehind⟩
    exact ⟨before, e.text, rfl, startsSign_iff.2 ⟨e, rfl, hbehind⟩⟩

instance (property : String) (s : List Char) : Decidable (Assigns property s) :=
  decidable_of_iff (somewhere (startsSign property (·.head? != some '=')) s = true) (by
    simp only [somewhere_startsSign_iff, bne_iff_ne]
    exact Iff.rfl)

instance (property : String) (s : List Char) : Decidable (Compares property s) :=
  decidable_of_iff (somewhere (startsSign property (·.head? == some '=')) s = true) (by
    simp only [somewhere_startsSign_iff, beq_iff_eq]
    exact Iff.rfl)

/-- The search does not look behind the first equals sign. -/
theorem assigns_iff : assigns property s = true ↔ Assigns property s ∨ Compares property s := by
  have hsearch : assigns property s = somewhere (startsSign property fun _ => true) s := rfl
  rw [hsearch, somewhere_startsSign_iff, Assigns, Compares, ← exists_or]
  refine exists_congr fun e => ?_
  rw [← and_or_left, and_iff_left rfl]
  exact (and_iff_left (Decidable.not_or_self _)).symm

end Search

/-! The check -/

variable {s : List Char} {line : LineContext}

/-- Markup is put into the page, and no plain text is. -/
def IsUnguarded (s : List Char) : Prop := Assigns ".innerHTML" s ∧ ¬ Assigns ".textContent" s

instance (s : List Char) : Decidable (IsUnguarded s) := inferInstanceAs (Decidable (_ ∧ _))

/-- A comparison decides what the check says of the text. -/
inductive IsMisread (s : List Char) : Prop
  /-- Markup is compared and nothing is assigned. -/
  | alarm : Compares ".innerHTML" s → ¬ Assigns ".innerHTML" s → ¬ Assigns ".textContent" s →
      ¬ Compares ".textContent" s → IsMisread s
  /-- Markup is assigned and plain text is compared. -/
  | silence : Assigns ".innerHTML" s → Compares ".textContent" s → ¬ Assigns ".textContent" s →
      IsMisread s

theorem assignsMarkup_iff : assignsMarkup s = true ↔
    (Assigns ".innerHTML" s ∨ Compares ".innerHTML" s) ∧
      ¬ (Assigns ".textContent" s ∨ Compares ".textContent" s) := by
  rw [assignsMarkup, Bool.and_eq_true, Bool.not_eq_true', ← Bool.not_eq_true, assigns_iff,
    assigns_iff]

/-- The check is wrong where it is misled by a comparison, and nowhere else. -/
theorem assignsMarkup_iff_isUnguarded_iff :
    (assignsMarkup s = true ↔ IsUnguarded s) ↔ ¬ IsMisread s := by
  rw [assignsMarkup_iff]
  constructor
  · rintro hagree (⟨hcompared, hnone, htext, htext'⟩ | ⟨hassigned, hcompared, htext⟩)
    · exact hnone (hagree.1 ⟨.inr hcompared, not_or.2 ⟨htext, htext'⟩⟩).1
    · exact (hagree.2 ⟨hassigned, htext⟩).2 (.inr hcompared)
  · intro hread
    constructor
    · rintro ⟨hsign, hnone⟩
      obtain ⟨htext, htext'⟩ := not_or.1 hnone
      by_cases hassigned : Assigns ".innerHTML" s
      · exact ⟨hassigned, htext⟩
      · exact absurd (.alarm (hsign.resolve_left hassigned) hassigned htext htext') hread
    · rintro ⟨hassigned, htext⟩
      refine ⟨.inl hassigned, not_or.2 ⟨htext, ?_⟩⟩
      intro hcompared
      exact hread (.silence hassigned hcompared htext)

theorem exists_xss_iff : (∃ i ∈ detect line, i.ruleId = some "xss-vulnerability") ↔
    Language.isScriptFamily line.language = true ∧ assignsMarkup line.content.toList = true := by
  rw [detect]
  constructor
  · rintro ⟨i, hi, hid⟩
    obtain ⟨threat, hthreat, rfl⟩ := List.mem_map.1 hi
    obtain ⟨hmem, hholds⟩ := List.mem_filter.1 hthreat
    simp only [threats, List.mem_cons, List.not_mem_nil, or_false] at hmem
    rcases hmem with rfl | rfl | rfl
    · exact absurd hid (by decide)
    · exact Bool.and_eq_true_iff.1 hholds
    · exact absurd hid (by decide)
  · intro h
    have hholds : threats[1] ∈ threats.filter fun t =>
        t.concerns line.language && t.holds line.content.toList :=
      List.mem_filter.2 ⟨List.getElem_mem _, Bool.and_eq_true_iff.2 h⟩
    exact ⟨threats[1].issue, List.mem_map_of_mem hholds, rfl⟩

theorem length_filter_xss_le :
    ((detect line).filter (·.ruleId == some "xss-vulnerability")).length ≤ 1 := by
  have hall : ((threats.map (·.issue)).filter (·.ruleId == some "xss-vulnerability")).length = 1 := by
    decide
  rw [detect, ← hall]
  exact ((List.filter_sublist.map _).filter _).length_le

/-- On a line of a script the rule `xss-vulnerability` has one issue at most. It has one if and only
if an equals sign stands behind `.innerHTML` and none behind `.textContent`. This is the intended
answer, which goes by assignments, unless a comparison misleads the check. -/
theorem xss_reported_iff (h : Language.isScriptFamily line.language = true) :
    let s := line.content.toList
    let reported := ∃ i ∈ detect line, i.ruleId = some "xss-vulnerability"
    ((detect line).filter (·.ruleId == some "xss-vulnerability")).length ≤ 1 ∧
    (reported ↔ (Assigns ".innerHTML" s ∨ Compares ".innerHTML" s) ∧
      ¬ (Assigns ".textContent" s ∨ Compares ".textContent" s)) ∧
    ((reported ↔ IsUnguarded s) ↔ ¬ IsMisread s) := by
  intro s reported
  have hreported : reported ↔ assignsMarkup s = true := exists_xss_iff.trans (and_iff_right h)
  refine ⟨length_filter_xss_le, hreported.trans assignsMarkup_iff, ?_⟩
  rw [hreported]
  exact assignsMarkup_iff_isUnguarded_iff

/-- An assignment behind a comparison of the same property, with plain text read and not written. -/
theorem xss_reported_iff_of_assignment :
    let line : LineContext := ⟨"if (a.innerHTML != t) a.innerHTML\t= b.textContent;", "typescript",
      .classify "a.ts" ""⟩
    Language.isScriptFamily line.language = true ∧
      ((detect line).filter (·.ruleId == some "xss-vulnerability")).length ≤ 1 ∧
      IsUnguarded line.content.toList ∧ ¬ IsMisread line.content.toList ∧
      ∃ i ∈ detect line, i.ruleId = some "xss-vulnerability" := by
  intro line
  have hscript : Language.isScriptFamily line.language = true := by decide
  have hunguarded : IsUnguarded line.content.toList := by decide +kernel
  have hcompared : ¬ Compares ".innerHTML" line.content.toList ∧
      ¬ Compares ".textContent" line.content.toList := by decide +kernel
  obtain ⟨hone, -, hagree⟩ := xss_reported_iff hscript
  have hread : ¬ IsMisread line.content.toList := by
    rintro (⟨h, -⟩ | ⟨-, h, -⟩)
    · exact hcompared.1 h
    · exact hcompared.2 h
  exact ⟨hscript, hone, hunguarded, hread, (hagree.2 hread).2 hunguarded⟩

/-- A comparison raises an alarm, and another one silences it. -/
theorem xss_misread_of_comparison :
    let line (s : String) : LineContext := ⟨s, "javascript", .classify "a.js" ""⟩
    let compared := line "if (a.innerHTML == b) c();"
    let assigned := line "a.innerHTML = b; if (c.textContent === d) e();"
    (¬ IsUnguarded compared.content.toList ∧
      (detect compared).map (·.ruleId) = [some "xss-vulnerability"]) ∧
    (IsUnguarded assigned.content.toList ∧ (detect assigned).map (·.ruleId) = []) := by
  decide +kernel

end PatchReview.Dangerous
