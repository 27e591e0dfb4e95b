import PatchReview.Proofs.CommandLine.Course
import PatchReview.Proofs.Review.Unchanged

/-! Where the findings of a review on the command line come from: from the added lines of the first
patches in scope, each as often as it is added there. -/
namespace PatchReview

namespace CommandLine

/-- The patches that are reviewed: of those that leave a text file behind, match a pattern of the
first list, if it has any, and none of the second, as many as are allowed. -/
def reviewed (included excluded : List String) (maxFiles : Nat) (patches : List FilePatch) :
    List FilePatch :=
  (patches.filter fun p => !p.isDeleted && !p.isBinary &&
    (included.isEmpty || included.any (Glob.isMatch · p.path)) &&
    !excluded.any (Glob.isMatch · p.path)).take maxFiles

end CommandLine

/-- An issue that a detector sees on a line of a file. -/
structure Sighting where
  path : String
  line : Int
  issue : Issue

/-- What detectors see on the added lines of patches, line by line. They know the text of the line, and
of the file its path alone. -/
def sightings (detectors : List Detector) (patches : List FilePatch) : List Sighting :=
  patches.flatMap fun p => p.addedLines.flatMap fun (n, s) => detectors.flatMap fun d =>
    (d.detect ⟨s, Language.ofPath p.path, FileIntent.classify p.path ""⟩).map fun issue =>
      ⟨p.path, n, issue⟩

theorem exists_line_of_mem_sightings {detectors : List Detector} {patches : List FilePatch}
    {s : Sighting} (hs : s ∈ sightings detectors patches) :
    ∃ p ∈ patches, ∃ n t, (n, t) ∈ p.addedLines ∧ s.path = p.path ∧ s.line = n := by
  obtain ⟨p, hp, hs⟩ := List.mem_flatMap.1 hs
  obtain ⟨⟨n, t⟩, hline, hs⟩ := List.mem_flatMap.1 hs
  obtain ⟨d, -, hs⟩ := List.mem_flatMap.1 hs
  obtain ⟨issue, -, rfl⟩ := List.mem_map.1 hs
  exact ⟨p, hp, n, t, hline, rfl, rfl⟩

/-- The finding reports what was seen, with its confidence and its kind. -/
structure Finding.IsOn (x : Finding) (s : Sighting) : Prop where
  path : x.path = s.path
  line : x.line = s.line
  message : x.message = s.issue.message
  suggestion : x.suggestion = s.issue.suggestion
  ruleId : x.ruleId = s.issue.ruleId
  tags : x.tags = s.issue.tags
  confidence : x.confidence = Confidence.score {} s.issue
    (ScoreContext.ofFile (FileIntent.classify s.path "") (Language.ofPath s.path))
  category : x.category = (Category.classify s.issue.tags s.issue.ruleId).1
  severity : x.severity = (Category.classify s.issue.tags s.issue.ruleId).2.name
  emoji : x.emoji = x.category.emoji
  sortOrder : x.sortOrder = x.category.sortOrder

namespace Reviewer

/-- The finding with which a reviewer without verdicts reports what was seen. -/
def findingOn (s : Sighting) : Finding :=
  finding {} (ScoreContext.ofFile (FileIntent.classify s.path "") (Language.ofPath s.path)) s.path
    s.line s.issue

theorem isOn_findingOn (s : Sighting) : (findingOn s).IsOn s := by
  constructor <;> rfl

theorem findingsOn_eq_map (r : Reviewer) (path : String) (line : ChangedLine) :
    r.findingsOn {} path line =
      (r.detectors.flatMap fun d =>
        (d.detect ⟨line.content, Language.ofPath path, FileIntent.classify path ""⟩).map
          fun issue => (⟨path, line.number, issue⟩ : Sighting)).map findingOn := by
  rw [findingsOn, lineFindings, List.map_flatMap, List.map_flatMap]
  simp only [List.map_map]
  rfl

end Reviewer

namespace CommandLine

theorem findings_fileOfPatch (r : Reviewer) (patch : FilePatch) (content : String) :
    (r.reviewFile {} (fileOfPatch patch content)).findings =
      (sightings r.detectors [patch]).map Reviewer.findingOn := by
  rw [Reviewer.findings_reviewFile, sightings, List.flatMap_singleton, List.map_flatMap]
  simp only [← Reviewer.findingsOn_eq_map r patch.path ⟨_, _⟩]
  exact List.flatMap_map ..

variable {host : Host Id} {o : ReviewOptions}

namespace Course
variable (c : Course host o)

theorem belongs : c.given.Belongs host o := by
  obtain ⟨t, h⟩ := c.prepared
  exact ends_prepare h

/-- The patches whose added lines the review is about. -/
def patches : List FilePatch :=
  reviewed (o.included.getD c.given.config.scope.included)
    (o.excluded.getD c.given.config.scope.excluded) c.given.config.maxFiles.toNat c.given.patches

theorem patches_eq :
    c.patches = (c.given.plan.scope.select c.given.patches).take c.given.plan.maxFiles := by
  obtain ⟨-, hscope, hmax⟩ := ofOptions_eq_ok c.belongs.plan
  rw [hscope, hmax]
  simp only [patches, reviewed, PathScope.select, PathScope.admits, Bool.and_assoc]

/-- Each file under review comes from a patch, and with the path and the added lines of it. -/
theorem forall₂_patches_files :
    List.Forall₂ (fun p f => ∃ content, f = fileOfPatch p content) c.patches c.files := by
  rw [patches_eq]
  exact c.loaded

/-- What the files under review have in them is what was seen on the lines that patches add. -/
theorem findings_files : (c.files.flatMap fun f => (c.reviewer.reviewFile {} f).findings) =
    (sightings c.given.detectors c.patches).map Reviewer.findingOn := by
  have hfiles := c.forall₂_patches_files
  generalize c.patches = patches at hfiles
  generalize c.files = files at hfiles
  induction hfiles with
  | nil => rfl
  | @cons p f patches files hfile _ ih =>
    obtain ⟨content, rfl⟩ := hfile
    have hcons : sightings c.given.detectors (p :: patches) =
        sightings c.given.detectors [p] ++ sightings c.given.detectors patches := by
      rw [sightings, sightings, sightings, List.flatMap_cons, List.flatMap_singleton]
    rw [List.flatMap_cons, ih, findings_fileOfPatch, hcons, List.map_append]
    rfl

/-- Also in a review that was cut off, each finding is on a line that a patch adds. -/
theorem exists_line_of_mem {inTime : ReviewFile → Bool} {x : Finding}
    (hx : x ∈ (c.resultAt inTime).findings) :
    ∃ p ∈ c.patches, ∃ n s, (n, s) ∈ p.addedLines ∧ x.path = p.path ∧ x.line = n := by
  have hperm := c.reviewer.findings_runFiles_perm_files {} c.given.plan.limits inTime c.files
  obtain ⟨f, hf, hx⟩ := List.mem_flatMap.1 (hperm.mem_iff.1 hx)
  have hseen : x ∈ c.files.flatMap fun f => (c.reviewer.reviewFile {} f).findings :=
    List.mem_flatMap.2 ⟨f, List.mem_of_mem_filter hf, hx⟩
  rw [findings_files] at hseen
  obtain ⟨s, hs, rfl⟩ := List.mem_map.1 hseen
  exact exists_line_of_mem_sightings hs

theorem mem_of_mem_patches {p : FilePatch} (hp : p ∈ c.patches) : p ∈ c.given.patches :=
  List.mem_of_mem_filter (List.mem_of_mem_take hp)

end Course

/-- A review up to its report. -/
def untilReport (host : Host Id) (o : ReviewOptions) (inTime : ReviewFile → Bool) :
    Task CommandError Id Material := do
  let given ← prepare host o
  let _ ← examine host o inTime given
  return given

/-- Whether a review gets to its report, with lines under review whose numbers can be written. -/
def reachesReport (host : Host Id) (o : ReviewOptions) (inTime : ReviewFile → Bool) : Bool :=
  match ((untilReport host o inTime).run.run (firstLog host)).1 with
  | .ok given => given.patches.all fun p => p.addedLines.all fun (n, _) => Number.isWritable n
  | .error _ => false

theorem isWritable_resultAt (c : Course host o) (inTime : ReviewFile → Bool) (m : Int)
    (h : ∀ p ∈ c.given.patches, ∀ line ∈ p.addedLines, Number.isWritable line.1 = true) :
    Report.isWritable m (c.resultAt inTime) = true := by
  refine List.all_eq_true.2 fun x hx => ?_
  obtain ⟨p, hp, n, s, hline, -, hnumber⟩ := c.exists_line_of_mem (List.mem_of_mem_filter hx)
  have hwritable := h p (c.mem_of_mem_patches hp) _ hline
  rw [← hnumber] at hwritable
  exact hwritable

/-- Nothing else can keep a review that gets to its report from its end. -/
theorem error_eq_none_of_reachesReport {words : List String} {inTime : ReviewFile → Bool}
    (hwords : Command.ofWords words = .ok (.review o)) (h : reachesReport host o inTime = true) :
    (run host words inTime).error = none := by
  rw [reachesReport] at h
  rcases hsteps : (untilReport host o inTime).run.run (firstLog host) with ⟨e | given, t⟩
  · rw [hsteps] at h
    cases h
  · rw [hsteps] at h
    obtain ⟨given', t₁, hgiven, hrest⟩ := Task.ends_bind.1 hsteps
    obtain ⟨result, t₂, hresult, hrest⟩ := Task.ends_bind.1 hrest
    obtain ⟨rfl, rfl⟩ := Task.ends_pure.1 hrest
    obtain ⟨c, rfl, rfl⟩ := ends_examine hresult ⟨t₁, hgiven⟩
    simp only [List.all_eq_true] at h
    have hwritable := isWritable_resultAt c inTime c.given.plan.minConfidence h
    have hpresent : (present host c.given.plan (c.resultAt inTime)).Ends t₂ _ t₂ :=
      ends_present.2 ⟨hwritable, rfl, rfl⟩
    rw [run_eq_ofAnswer hwords, review_eq, Task.run_bind_of_ends hgiven,
      Task.run_bind_of_ends hresult, hpresent]
    rfl

end CommandLine
end PatchReview
