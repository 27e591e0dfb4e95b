import PatchReview.Detector.Selection

/-! What detectors ask of a file: its profile, which lists the findings that it accepts. Neither its
path nor what it says of itself plays a part in what they find. -/
namespace PatchReview

variable {content language : String} {file file' : FileIntent}

theorem Guidelines.find?_congr (file file' : FileIntent) (c : Check) :
    find? c ⟨content, language, file⟩ = find? c ⟨content, language, file'⟩ := by
  cases c with
  | noConsole => rfl
  | noCommentedCode => rfl
  | noVar => rfl
  | preferTemplate => rfl

theorem FileIntent.allows_congr (h : file.profile = file'.profile) : file.allows = file'.allows := by
  funext name
  rw [allows, allows, h]

theorem Guidelines.applyRule_congr (h : file.profile = file'.profile) (reaches : Check → Bool) :
    applyRule reaches ⟨content, language, file⟩ = applyRule reaches ⟨content, language, file'⟩ := by
  funext rule
  simp only [applyRule, FileIntent.allows_congr h, find?_congr file file']

theorem ReadyPattern.find?_congr (h : file.profile = file'.profile) (p : ReadyPattern) :
    p.find? ⟨content, language, file⟩ = p.find? ⟨content, language, file'⟩ := by
  simp only [find?, FileIntent.allows_congr h]

/-- Detectors find the same in files with one profile. -/
theorem Detector.detect_congr (h : file.profile = file'.profile) (d : Detector) :
    d.detect ⟨content, language, file⟩ = d.detect ⟨content, language, file'⟩ := by
  cases d with
  | secrets => rfl
  | dangerous => rfl
  | guidelines rules => simp only [detect, Guidelines.detect, Guidelines.applyRule_congr h]
  | custom patterns => simp only [detect, ReadyPattern.find?_congr h]

end PatchReview
