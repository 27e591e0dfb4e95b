import PatchReview.Detector.Guidelines
import PatchReview.Proofs.Rule.Buckets

/-! The checks that merged sets of rules ask for. Where sets have buckets of one name, a merge makes
one bucket of them, so the rules come in another order, but each stays under the name of its bucket.
What is reported on a line depends on nothing else, so each set adds what it would report by itself. -/
namespace PatchReview

namespace Guidelines
variable (line : LineContext)

/-- The reports of the rules for all languages. -/
def categoryIssues (rules : List Rule) : List Issue :=
  ((rules.filter (·.isPattern)).filterMap (applyRule isForCategories line)).map
    fun i => { i with source := .custom }

/-- The reports of the rules for the language of the line. -/
def languageIssues (rules : List Rule) : List Issue :=
  (rules.filterMap (applyRule (!isForCategories ·) line)).map
    fun i => { i with source := .builtin, language := some line.language }

theorem categoryIssues_append (rules others : List Rule) :
    categoryIssues line (rules ++ others) =
      categoryIssues line rules ++ categoryIssues line others := by
  rw [categoryIssues, List.filter_append, List.filterMap_append, List.map_append]
  rfl

theorem languageIssues_append (rules others : List Rule) :
    languageIssues line (rules ++ others) =
      languageIssues line rules ++ languageIssues line others := by
  rw [languageIssues, List.filterMap_append, List.map_append]
  rfl

theorem detect_eq (rules : RuleSet) : detect rules line =
    categoryIssues line (rules.categories.rulesUnder fun _ => true) ++
      languageIssues line (rules.rulesFor line.language) := by
  rw [← Buckets.map_snd_entries]
  rfl

theorem detect_append (a b : RuleSet) :
    (detect (a.append b) line).Perm (detect a line ++ detect b line) := by
  have hcategories : (categoryIssues line ((a.append b).categories.rulesUnder fun _ => true)).Perm
      (categoryIssues line (a.categories.rulesUnder fun _ => true) ++
        categoryIssues line (b.categories.rulesUnder fun _ => true)) := by
    have hrules := Buckets.rulesUnder_append (fun _ => true) a.categories b.categories
    exact (((hrules.filter _).filterMap _).map _).trans (.of_eq (categoryIssues_append line _ _))
  have hlanguages : (languageIssues line ((a.append b).rulesFor line.language)).Perm
      (languageIssues line (a.rulesFor line.language) ++
        languageIssues line (b.rulesFor line.language)) := by
    have hrules := Buckets.rulesUnder_append
      (RuleSet.namesLanguage (Text.lower line.language.toList)) a.languages b.languages
    exact ((hrules.filterMap _).map _).trans (.of_eq (languageIssues_append line _ _))
  rw [detect_eq, detect_eq, detect_eq, List.append_assoc]
  refine (hcategories.append hlanguages).trans ?_
  rw [List.append_assoc]
  exact (List.perm_append_comm_assoc _ _ _).append_left _

/-- Merged sets report on a line what each of them reports on it. -/
theorem detect_merge (sets : List RuleSet) :
    (detect (RuleSet.merge sets) line).Perm (sets.flatMap fun rules => detect rules line) := by
  have hfold : ∀ rules, (detect (sets.foldl RuleSet.append rules) line).Perm
      (detect rules line ++ sets.flatMap fun rules => detect rules line) := by
    induction sets with
    | nil =>
      intro rules
      exact .of_eq (List.append_nil _).symm
    | cons next sets ih =>
      intro rules
      rw [List.flatMap_cons, ← List.append_assoc]
      exact (ih (rules.append next)).trans ((detect_append line rules next).append_right _)
  exact hfold {}

end Guidelines
end PatchReview
