import Mathlib.Algebra.Order.Group.Multiset
import PatchReview.Proofs.Detector.Choice
import PatchReview.Proofs.Finding.Order
import PatchReview.Proofs.Review.Collect
import PatchReview.Proofs.Rule.Merged

/-! What each detector adds to a review. Detectors look at a line without knowing of each other, and
the confidence in an issue depends on the issue and its file alone. So the findings of a run are those
of its detectors taken together, and a choice of detectors is a choice among their shares. -/
namespace PatchReview

/-- Reading a table of lists by rows or by columns. -/
theorem flatMap_flatMap_perm {α β γ : Type} (f : α → β → List γ) (xs : List α) (ys : List β) :
    (xs.flatMap fun x => ys.flatMap (f x)).Perm (ys.flatMap fun y => xs.flatMap fun x => f x y) := by
  induction xs with
  | nil =>
    simp only [List.flatMap_nil]
    exact .of_eq (List.flatMap_eq_nil_iff.2 fun _ _ => rfl).symm
  | cons x xs ih =>
    simp only [List.flatMap_cons]
    exact (ih.append_left _).trans (List.flatMap_append_perm ys _ _)

namespace Reviewer

section Issues
variable {look : LineContext → List Issue} {α : Type} {looks : α → LineContext → List Issue}

/-- The findings in a file of what reports issues on lines. -/
def findingsOf (history : AccuracyStore) (look : LineContext → List Issue) (f : ReviewFile) :
    List Finding :=
  let language := Language.ofPath f.path
  let intent := FileIntent.classify f.path f.content
  f.linesUnderReview.flatMap fun line =>
    (look ⟨line.content, language, intent⟩).map
      (finding history (.ofFile intent language) f.path line.number)

def issues (r : Reviewer) (line : LineContext) : List Issue := r.detectors.flatMap (·.detect line)

theorem findings_reviewFile_eq_findingsOf (r : Reviewer) (history : AccuracyStore) (f : ReviewFile) :
    (r.reviewFile history f).findings = findingsOf history r.issues f := rfl

theorem findingsOf_perm {parts : List α}
    (h : ∀ line, (look line).Perm (parts.flatMap fun p => looks p line))
    (history : AccuracyStore) (f : ReviewFile) :
    (findingsOf history look f).Perm (parts.flatMap fun p => findingsOf history (looks p) f) := by
  refine .trans (List.Perm.flatMap_left _ ?_) (flatMap_flatMap_perm _ _ _)
  intro line _
  refine ((h _).map _).trans (.of_eq ?_)
  exact List.map_flatMap

theorem flatMap_findingsOf_perm {parts : List α}
    (h : ∀ line, (look line).Perm (parts.flatMap fun p => looks p line))
    (history : AccuracyStore) (files : List ReviewFile) :
    (files.flatMap (findingsOf history look)).Perm
      (parts.flatMap fun p => files.flatMap (findingsOf history (looks p))) :=
  .trans (List.Perm.flatMap_left _ fun f _ => findingsOf_perm h history f)
    (flatMap_flatMap_perm _ _ _)

end Issues

section Runs
variable (r : Reviewer) (history : AccuracyStore) (limits : ReviewLimits)
variable (inTime : ReviewFile → Bool) (files : List ReviewFile)

/-- A run reports the findings in the files that are done. -/
theorem findings_runFiles_perm :
    (r.runFiles history limits inTime files).result.findings.Perm
      ((files.filter fun f => limits.timeout.isNone || inTime f).flatMap
        (findingsOf history r.issues)) := by
  have hmade : (fun f => (r.reviewFile history f).findings) = findingsOf history r.issues :=
    funext (findings_reviewFile_eq_findingsOf r history)
  rw [← hmade]
  exact findings_runFiles_perm_files r history limits inTime files

end Runs
end Reviewer

theorem coe_flatMap_filter {α β : Type} (selected : α → Bool) (share : α → List β) (xs : List α) :
    (((xs.filter selected).flatMap share : List β) : Multiset β) =
      (xs.map fun x => if selected x = true then (share x : Multiset β) else 0).sum := by
  induction xs with
  | nil => rfl
  | cons x xs ih =>
    rw [List.map_cons, List.sum_cons, ← ih, List.filter_cons]
    split
    · rw [List.flatMap_cons, Multiset.coe_add]
    · rw [zero_add]

namespace Reviewer

section Shares
variable (rules : RuleSet) (change : Option ChangeIntent) (history : AccuracyStore)
variable (limits : ReviewLimits) (inTime : ReviewFile → Bool) (files : List ReviewFile)

/-- What a detector finds in files. -/
def share (detector : Detector) : List Finding := files.flatMap (findingsOf history detector.detect)

theorem coe_findings_choice {c : DetectorChoice} {ready : List ReadyPattern}
    {detectors : List Detector}
    (hdetectors : detectors = (DetectorKind.all.filter c.selects).map (·.detector rules ready)) :
    ((runFiles ⟨rules, detectors, change⟩ history limits inTime files).result.findings :
        Multiset Finding) =
      (DetectorKind.all.map fun kind =>
        if (∀ ids ∈ c.enabled, kind.id ∈ ids) ∧ kind.id ∉ c.disabled then
          (share history (files.filter fun f => limits.timeout.isNone || inTime f)
            (kind.detector rules ready) : Multiset Finding)
        else 0).sum := by
  have hshares := (findings_runFiles_perm ⟨rules, detectors, change⟩ history limits inTime
    files).trans (flatMap_findingsOf_perm (fun _ => .refl _) history _)
  change List.Perm _ (detectors.flatMap (share history _)) at hshares
  rw [hdetectors, List.flatMap_map, ← hdetectors] at hshares
  rw [Multiset.coe_eq_coe.2 hshares, coe_flatMap_filter]
  simp only [DetectorChoice.selects_iff]

theorem findings_merge_perm (sets : List RuleSet) :
    (runFiles ⟨RuleSet.merge sets, [.guidelines (RuleSet.merge sets)], change⟩ history limits inTime
        files).result.findings.Perm
      (sets.flatMap fun rules =>
        (runFiles ⟨rules, [.guidelines rules], change⟩ history limits inTime
          files).result.findings) := by
  have hissues : ∀ line, (issues ⟨RuleSet.merge sets, [.guidelines (RuleSet.merge sets)], change⟩
      line).Perm (sets.flatMap fun rules => issues ⟨rules, [.guidelines rules], change⟩ line) := by
    intro line
    simp only [issues, List.flatMap_singleton, Detector.detect]
    exact Guidelines.detect_merge line sets
  have hfindings := fun rules : RuleSet => findings_runFiles_perm
    ⟨rules, [.guidelines rules], change⟩ history limits inTime files
  refine (hfindings (RuleSet.merge sets)).trans ?_
  refine (flatMap_findingsOf_perm hissues history _).trans ?_
  exact List.Perm.flatMap_left _ fun rules _ => (hfindings rules).symm

end Shares

/-- Detectors and rules act independently. The findings of a run are the shares that its detectors
have in the files that are done, which are all files unless it is partial. The shares are the same in
every run; a choice of detectors says whose shares are taken, and it is refused if it has a name that
no detector bears. Merged sets of rules report on each line, and
in each run with the detector for rules alone, what each of the sets reports. -/
theorem detectors_and_rules_independent :
    (∀ (rules : RuleSet) (patterns : List CustomPattern),
      (∀ p ∈ patterns, ∀ text ∈ p.regex, ∃ node, Pattern.compile? text = .ok node) →
      ∀ history : AccuracyStore,
      ∃ share : DetectorKind → List ReviewFile → Multiset Finding, ∀ c : DetectorChoice,
        let listed := c.enabled.getD [] ++ c.disabled
        ((∃ ids, c.detectors rules patterns = .error (.unknownIds ids)) ↔
          ∃ id ∈ listed, ∀ kind : DetectorKind, id ≠ kind.id) ∧
        (∀ ids, c.detectors rules patterns = .error (.unknownIds ids) →
          ids.Pairwise (· < ·) ∧
          ∀ id, id ∈ ids ↔ id ∈ listed ∧ ∀ kind : DetectorKind, id ≠ kind.id) ∧
        ((∀ id ∈ listed, ∃ kind : DetectorKind, id = kind.id) →
          ∃ detectors, c.detectors rules patterns = .ok detectors ∧
          ∀ change limits inTime files,
            let result := (runFiles ⟨rules, detectors, change⟩ history limits inTime files).result
            let done := files.filter fun f => limits.timeout.isNone || inTime f
            (result.isPartial = false → done = files) ∧
            (result.findings : Multiset Finding) = (DetectorKind.all.map fun kind =>
              if (∀ ids ∈ c.enabled, kind.id ∈ ids) ∧ kind.id ∉ c.disabled then share kind done
              else 0).sum)) ∧
    (∀ sets line, (Guidelines.detect (RuleSet.merge sets) line).Perm
      (sets.flatMap fun rules => Guidelines.detect rules line)) ∧
    (∀ sets change history limits inTime files,
      let findings (rules : RuleSet) := (runFiles ⟨rules, [.guidelines rules], change⟩ history limits
        inTime files).result.findings
      (findings (RuleSet.merge sets)).Perm (sets.flatMap findings)) := by
  refine ⟨?_, fun sets line => Guidelines.detect_merge line sets, ?_⟩
  · intro rules patterns hpatterns history
    obtain ⟨ready, hready⟩ := DetectorChoice.exists_ready hpatterns
    refine ⟨fun kind files => share history files (kind.detector rules ready), ?_⟩
    intro c listed
    refine ⟨DetectorChoice.exists_unknownIds_iff, ?_, ?_⟩
    · intro ids herror
      obtain ⟨rfl, -⟩ := DetectorChoice.detectors_eq_unknownIds.1 herror
      exact ⟨Text.pairwise_lt_sortedDistinct _, fun _ => DetectorChoice.mem_unknownIds⟩
    · intro hknown
      have hnone := DetectorChoice.unknownIds_eq_nil hknown
      refine ⟨_, DetectorChoice.detectors_eq_ok hnone hready, ?_⟩
      intro change limits inTime files result done
      refine ⟨fun hcomplete => List.filter_eq_self.2 (inTime_of_complete hcomplete), ?_⟩
      exact coe_findings_choice rules change history limits inTime files rfl
  · intro sets change history limits inTime files
    exact findings_merge_perm change history limits inTime files sets

/-- With a pattern of one's own, two detectors are named in use, one of them twice, and a third is
left out; another choice has a name that is none. -/
theorem detectors_and_rules_independent_of_two_detectors :
    let patterns : List CustomPattern :=
      [{ ruleId := "no-todo", message := "Open task", regex := some "TODO" }]
    let files : List ReviewFile := [⟨"a.py", "token = 'x' # TODO", none⟩]
    let chosen : DetectorChoice :=
      { enabled := some ["custom_patterns", "hardcoded_secrets", "custom_patterns"]
        disabled := ["guidelines"] }
    let wrong : DetectorChoice := { disabled := ["guidelines", "style"] }
    ∃ share : DetectorKind → List ReviewFile → Multiset Finding,
      (∃ detectors, chosen.detectors {} patterns = .ok detectors ∧
        ((runFiles ⟨{}, detectors, none⟩ {} {} (fun _ => true) files).result.findings :
          Multiset Finding) = share .secrets files + share .custom files) ∧
      ∃ ids, wrong.detectors {} patterns = .error (.unknownIds ids) := by
  intro patterns files chosen wrong
  have hpatterns : ∀ p ∈ patterns, ∀ text ∈ p.regex, ∃ node, Pattern.compile? text = .ok node := by
    intro p hp text htext
    obtain rfl := List.mem_singleton.1 hp
    obtain rfl := Option.some.inj htext
    exact ⟨_, rfl⟩
  obtain ⟨share, hshare⟩ := detectors_and_rules_independent.1 {} patterns hpatterns {}
  refine ⟨share, ?_, ?_⟩
  · have hknown : ∀ id ∈ chosen.enabled.getD [] ++ chosen.disabled,
        ∃ kind : DetectorKind, id = kind.id := by
      simp only [chosen, Option.getD_some, List.cons_append, List.nil_append, List.forall_mem_cons]
      exact ⟨⟨.custom, rfl⟩, ⟨.secrets, rfl⟩, ⟨.custom, rfl⟩, ⟨.guidelines, rfl⟩,
        List.forall_mem_nil _⟩
    obtain ⟨detectors, hdetectors, hfindings⟩ := (hshare chosen).2.2 hknown
    obtain ⟨hdone, hfindings⟩ := hfindings none {} (fun _ => true) files
    rw [hdone (isPartial_sequential _ _ _)] at hfindings
    refine ⟨detectors, hdetectors, hfindings.trans ?_⟩
    simp [DetectorKind.all, DetectorKind.id, chosen]
  · refine (hshare wrong).1.2 ⟨"style", by simp [wrong], ?_⟩
    intro kind
    cases kind <;> decide

end Reviewer
end PatchReview
