import Mathlib.Data.List.Basic
import PatchReview.Intent.Change
import PatchReview.Proofs.Except
import PatchReview.Proofs.Text.Case

/-! What labels add to the purpose that a title declares. A label counts by its name in lower case
alone. Labels raise flags, which stay up whatever other labels there are, and add areas of attention
behind those of the title. How strictly a change is reviewed is settled by all labels together, so
the order of labels shows in the order of the areas that they add and nowhere else. -/
namespace PatchReview.ChangeIntent
open Text

/-- One of the labels has a name that, in lower case, holds one of the words. -/
def Mention (words : List String) (labels : List Value) : Prop :=
  ∃ label ∈ labels, ∃ name, labelName? label = some name ∧
    ∃ word ∈ words, word.toList <:+: lower name.toList

/-- The areas of attention that a label of any form adds. -/
def addedAreas (label : Value) : List String :=
  (labelName? label).elim [] fun name => labelAreas (lower name.toList)

/-- The names of the labels that have one, in lower case, as labels. -/
def namesOnly (labels : List Value) : List Value :=
  (labels.filterMap labelName?).map fun name => .text (lowered name)

/-- The second purpose declares what the first one does and has all its flags and, in front of
others, its areas of attention. -/
structure Extends (x y : ChangeIntent) : Prop where
  type : y.type = x.type
  scope : y.scope = x.scope
  description : y.description = x.description
  expectTests : y.expectTests = x.expectTests
  expectDocs : y.expectDocs = x.expectDocs
  expectBenchmarks : y.expectBenchmarks = x.expectBenchmarks
  allowLargeDiffs : y.allowLargeDiffs = x.allowLargeDiffs
  skipChecks : y.skipChecks = x.skipChecks
  requireMigrationGuide : x.requireMigrationGuide = true → y.requireMigrationGuide = true
  urgent : x.urgent = true → y.urgent = true
  draft : x.draft = true → y.draft = true
  focusAreas : x.focusAreas <+: y.focusAreas

/-- What labels make of the purpose of a title alone. -/
structure IsLabelled (alone : ChangeIntent) (labels : List Value) (x : ChangeIntent) : Prop where
  requireMigrationGuide : x.requireMigrationGuide = true ↔
    alone.requireMigrationGuide = true ∨ Mention ["breaking"] labels
  urgent : x.urgent = true ↔ alone.urgent = true ∨ Mention ["hotfix", "urgent"] labels
  draft : x.draft = true ↔ alone.draft = true ∨ Mention ["wip", "draft"] labels
  focusAreas : x.focusAreas = alone.focusAreas ++ labels.flatMap addedAreas
  lenient : Mention ["wip", "draft"] labels → x.strictness = .lenient
  strict : ¬ Mention ["wip", "draft"] labels → Mention ["security"] labels →
    x.strictness = .strict
  strictness : ¬ Mention ["wip", "draft"] labels → ¬ Mention ["security"] labels →
    x.strictness = alone.strictness

/-! Names in lower case -/

section Names
variable {words : List String} {labels more : List Value}

theorem labelNames_append (labels more : List Value) :
    labelNames (.list (labels ++ more)) = labelNames (.list labels) ++ labelNames (.list more) := by
  simp only [labelNames, List.filterMap_append, List.map_append]

theorem labelNames_perm (h : labels.Perm more) :
    (labelNames (.list labels)).Perm (labelNames (.list more)) :=
  (h.filterMap labelName?).map _

/-- A name that is in lower case is read as it is. -/
theorem labelNames_namesOnly (labels : List Value) :
    labelNames (.list (namesOnly labels)) = labelNames (.list labels) := by
  have hname : labelName? ∘ (fun name => .text (lowered name)) = some ∘ lowered := rfl
  have hlower : ∀ name : String, lower (lowered name).toList = lower name.toList := by
    intro name
    rw [lowered, String.toList_ofList, lower_lower]
  rw [labelNames, labelNames, namesOnly, List.filterMap_map, hname, List.filterMap_eq_map,
    List.map_map]
  exact List.map_congr_left fun name _ => hlower name

theorem any_mentions_iff :
    (labelNames (.list labels)).any (mentions words) = true ↔ Mention words labels := by
  rw [List.any_eq_true]
  constructor
  · rintro ⟨_, hlower, hmentions⟩
    obtain ⟨name, hname, rfl⟩ := List.mem_map.1 hlower
    obtain ⟨label, hlabel, hname⟩ := List.mem_filterMap.1 hname
    obtain ⟨word, hword, hoccurs⟩ := List.any_eq_true.1 hmentions
    exact ⟨label, hlabel, name, hname, word, hword, occurs_iff.1 hoccurs⟩
  · rintro ⟨label, hlabel, name, hname, word, hword, hinfix⟩
    refine ⟨lower name.toList, ?_, List.any_eq_true.2 ⟨word, hword, occurs_iff.2 hinfix⟩⟩
    exact List.mem_map.2 ⟨name, List.mem_filterMap.2 ⟨label, hlabel, hname⟩, rfl⟩

theorem flatMap_labelAreas (labels : List Value) :
    (labelNames (.list labels)).flatMap labelAreas = labels.flatMap addedAreas := by
  induction labels with
  | nil => rfl
  | cons label labels ih =>
    have hcons : labelNames (.list (label :: labels)) =
        labelNames (.list [label]) ++ labelNames (.list labels) := labelNames_append [label] labels
    rw [hcons, List.flatMap_append, ih, List.flatMap_cons]
    congr 1
    cases hname : labelName? label with
    | none => simp [labelNames, addedAreas, hname]
    | some name => simp [labelNames, addedAreas, hname]

end Names

/-! Labels by their names -/

section Labels
variable (intent : ChangeIntent)

theorem withLabels_nil : intent.withLabels [] = intent := by
  simp [withLabels]

/-- More labels neither take down a flag nor touch the areas that are there. -/
theorem extends_withLabels_append (labels more : List (List Char)) :
    (intent.withLabels labels).Extends (intent.withLabels (labels ++ more)) where
  type := rfl
  scope := rfl
  description := rfl
  expectTests := rfl
  expectDocs := rfl
  expectBenchmarks := rfl
  allowLargeDiffs := rfl
  skipChecks := rfl
  requireMigrationGuide := by
    simp only [withLabels, List.any_append, Bool.or_eq_true]
    tauto
  urgent := by
    simp only [withLabels, List.any_append, Bool.or_eq_true]
    tauto
  draft := by
    simp only [withLabels, List.any_append, Bool.or_eq_true]
    tauto
  focusAreas := by
    simp only [withLabels, List.flatMap_append, ← List.append_assoc]
    exact List.prefix_append _ _

theorem extends_withLabels (labels : List (List Char)) : intent.Extends (intent.withLabels labels) := by
  have h := extends_withLabels_append intent [] labels
  rwa [withLabels_nil] at h

theorem any_of_perm {labels labels' : List (List Char)} (h : labels.Perm labels')
    (p : List Char → Bool) : labels.any p = labels'.any p := by
  rw [Bool.eq_iff_iff, List.any_eq_true, List.any_eq_true]
  simp only [h.mem_iff]

/-- The order of labels shows in the areas that they add. -/
theorem withLabels_perm {labels labels' : List (List Char)} (h : labels.Perm labels') :
    intent.withLabels labels' = { intent.withLabels labels with
      focusAreas := intent.focusAreas ++ labels'.flatMap labelAreas } := by
  simp only [withLabels, any_of_perm h]

theorem isLabelled_withLabels (labels : List Value) :
    intent.IsLabelled labels (intent.withLabels (labelNames (.list labels))) := by
  have hdraft : (labelNames (.list labels)).any (mentions ["wip", "draft"]) = true ↔
      Mention ["wip", "draft"] labels := any_mentions_iff
  have hsecurity : (labelNames (.list labels)).any (mentions ["security"]) = true ↔
      Mention ["security"] labels := any_mentions_iff
  constructor
  · rw [← any_mentions_iff, ← Bool.or_eq_true]
    rfl
  · rw [← any_mentions_iff, ← Bool.or_eq_true]
    rfl
  · rw [← any_mentions_iff, ← Bool.or_eq_true]
    rfl
  · rw [← flatMap_labelAreas]
    rfl
  · intro h
    exact if_pos (hdraft.2 h)
  · intro h h'
    exact (if_neg (mt hdraft.1 h)).trans (if_pos (hsecurity.2 h'))
  · intro h h'
    exact (if_neg (mt hdraft.1 h)).trans (if_neg (mt hsecurity.1 h'))

end Labels

/-! Titles with labels -/

theorem classify_eq_ok {title : String} {labels : Value} {x : ChangeIntent} :
    classify title labels = .ok x ↔
      ∃ alone, ofTitle title = .ok alone ∧ alone.withLabels (labelNames labels) = x :=
  map_eq_ok

/-- A title from which a purpose is read has one with any labels. They add to the purpose of the
title alone and keep what it declares. More labels add more; the same labels in another order add
the same, up to the order of the areas of attention; and only the names of labels in lower case
count. -/
theorem classify_labels {title : String} {given : Value} {intent : ChangeIntent}
    (htitle : classify title given = .ok intent) :
    ∃ alone, classify title .null = .ok alone ∧ ∀ labels : List Value, ∃ x,
      classify title (.list labels) = .ok x ∧ alone.Extends x ∧ alone.IsLabelled labels x ∧
      (∀ more, ∃ y, classify title (.list (labels ++ more)) = .ok y ∧ x.Extends y) ∧
      (∀ labels', labels.Perm labels' → ∃ added added', added.Perm added' ∧
        x.focusAreas = alone.focusAreas ++ added ∧
        classify title (.list labels') =
          .ok { x with focusAreas := alone.focusAreas ++ added' }) ∧
      classify title (.list (namesOnly labels)) = .ok x := by
  obtain ⟨alone, halone, -⟩ := classify_eq_ok.1 htitle
  have hclassify : ∀ labels, classify title labels = .ok (alone.withLabels (labelNames labels)) :=
    fun labels => classify_eq_ok.2 ⟨alone, halone, rfl⟩
  refine ⟨alone, (hclassify .null).trans (congrArg _ alone.withLabels_nil), fun labels =>
    ⟨_, hclassify _, alone.extends_withLabels _, alone.isLabelled_withLabels labels, ?_, ?_, ?_⟩⟩
  · intro more
    refine ⟨_, hclassify _, ?_⟩
    rw [labelNames_append]
    exact alone.extends_withLabels_append _ _
  · intro labels' hperm
    have hnames := labelNames_perm hperm
    refine ⟨_, _, hnames.flatMap_right labelAreas, rfl, ?_⟩
    rw [hclassify, alone.withLabels_perm hnames]
  · rw [hclassify, labelNames_namesOnly]

/-- A draft about security is reviewed leniently, whatever the order of its labels. -/
theorem classify_labels_of_draft :
    let title := "docs: Guide"
    let labels : List Value := [.text "Security", .int 5, .table [("name", .text "WIP: breaking")]]
    let told (x : ChangeIntent) := (x.strictness, x.draft, x.skipChecks, x.focusAreas)
    ∃ alone x, classify title .null = .ok alone ∧ classify title (.list labels) = .ok x ∧
      told alone = (.normal, false, true, ["documentation-quality"]) ∧
      told x = (.lenient, true, true, ["documentation-quality", "security", "breaking-changes"]) ∧
      alone.Extends x ∧ ∃ added', classify title (.list labels.reverse) =
        .ok { x with focusAreas := alone.focusAreas ++ added' } := by
  intro title labels told
  have hplain : (classify title .null).map told =
      .ok (.normal, false, true, ["documentation-quality"]) := by decide +kernel
  have hdraft : (classify title (.list labels)).map told =
      .ok (.lenient, true, true, ["documentation-quality", "security", "breaking-changes"]) := by
    decide +kernel
  obtain ⟨given, htitle, htold⟩ := map_eq_ok.1 hplain
  obtain ⟨x', hlabels, htold'⟩ := map_eq_ok.1 hdraft
  obtain ⟨alone, halone, hall⟩ := classify_labels htitle
  obtain rfl : given = alone := Except.ok.inj (htitle.symm.trans halone)
  obtain ⟨x, hx, hextends, -, -, hperm, -⟩ := hall labels
  obtain rfl : x' = x := Except.ok.inj (hlabels.symm.trans hx)
  obtain ⟨-, added', -, -, hreverse⟩ := hperm labels.reverse labels.reverse_perm.symm
  exact ⟨given, x', htitle, hlabels, htold, htold', hextends, added', hreverse⟩

end PatchReview.ChangeIntent
