import Mathlib.Data.List.Forall2
import PatchReview.Proofs.Detector.Profile
import PatchReview.Proofs.Review.Collect
import PatchReview.Report.Data

/-! What a review sees of a file: its path and the lines under review. The rest of the text tells
the purpose of the file, which no detector and no score asks for and which only reports for other
programs name. -/
namespace PatchReview

namespace FileIntent

/-- The role of the file, whatever it says of itself. -/
def withoutPurpose (intent : FileIntent) : FileIntent := { intent with purpose := none }

/-- The path alone tells everything but the purpose. -/
theorem withoutPurpose_classify (path content : String) :
    (classify path content).withoutPurpose = classify path "" := by
  have hnone : purposeOf path "" = none := by simp [purposeOf]
  simp only [classify, withoutPurpose, hnone]

end FileIntent

/-- The line as one of a file of unknown purpose. -/
def LineContext.withoutPurpose (line : LineContext) : LineContext :=
  { line with file := line.file.withoutPurpose }

/-- No detector asks for the purpose of a file. -/
theorem Detector.detect_withoutPurpose (d : Detector) (line : LineContext) :
    d.detect line.withoutPurpose = d.detect line := by
  have hprofile : line.file.withoutPurpose.profile = line.file.profile := rfl
  exact d.detect_congr hprofile

namespace Reviewer

/-- The findings on a line of a file, told from the path of the file and from the line. -/
def findingsOn (r : Reviewer) (history : AccuracyStore) (path : String) (line : ChangedLine) :
    List Finding :=
  r.lineFindings history (.classify path "") (Language.ofPath path) path line

theorem lineFindings_withoutPurpose (r : Reviewer) (history : AccuracyStore) (intent : FileIntent)
    (language path : String) (line : ChangedLine) :
    r.lineFindings history intent.withoutPurpose language path line =
      r.lineFindings history intent language path line := by
  have hdetect : ∀ d : Detector, d.detect ⟨line.content, language, intent.withoutPurpose⟩ =
      d.detect ⟨line.content, language, intent⟩ :=
    fun d => d.detect_withoutPurpose ⟨line.content, language, intent⟩
  have hplace : ScoreContext.ofFile intent.withoutPurpose language =
      ScoreContext.ofFile intent language := rfl
  simp only [lineFindings, hdetect, hplace]

theorem findings_reviewFile (r : Reviewer) (history : AccuracyStore) (f : ReviewFile) :
    (r.reviewFile history f).findings =
      f.linesUnderReview.flatMap (r.findingsOn history f.path) := by
  have hline : r.lineFindings history (.classify f.path f.content) (Language.ofPath f.path) f.path =
      r.findingsOn history f.path := by
    funext line
    rw [← lineFindings_withoutPurpose, FileIntent.withoutPurpose_classify]
    rfl
  rw [reviewFile, hline]

end Reviewer

/-- The files have one path and the same changed lines, which are given. The rest of their text
may differ. -/
structure ReviewFile.SameLines (f g : ReviewFile) : Prop where
  path : f.path = g.path
  changed : f.changed = g.changed
  isSome : f.changed.isSome

theorem ReviewFile.SameLines.linesUnderReview {f g : ReviewFile} (h : f.SameLines g) :
    f.linesUnderReview = g.linesUnderReview := by
  obtain ⟨lines, hlines⟩ := Option.isSome_iff_exists.1 h.isSome
  rw [ReviewFile.linesUnderReview, ReviewFile.linesUnderReview, ← h.changed, hlines]
  rfl

theorem ReviewFile.SameLines.map_path {files files' : List ReviewFile}
    (h : List.Forall₂ ReviewFile.SameLines files files') :
    files.map (·.path) = files'.map (·.path) := by
  induction h with
  | nil => rfl
  | cons hfile _ ih => rw [List.map_cons, List.map_cons, hfile.path, ih]

namespace Reviewer

theorem findings_sequential_congr (r : Reviewer) (change : Option ChangeIntent)
    (history : AccuracyStore) {files files' : List ReviewFile}
    (h : List.Forall₂ ReviewFile.SameLines files files') :
    (r.sequential history files).findings =
      (({ r with change } : Reviewer).sequential history files').findings := by
  rw [findings_sequential, findings_sequential]
  refine congrArg Finding.sort ?_
  induction h with
  | nil => rfl
  | @cons f g files files' hfile _ ih =>
    rw [List.flatMap_cons, List.flatMap_cons, ih, findings_reviewFile, findings_reviewFile,
      hfile.path, hfile.linesUnderReview]
    rfl

/-- The roles of files, whatever the files say of themselves. -/
def withoutPurposes (roles : List (String × FileIntent)) : List (String × FileIntent) :=
  roles.map fun (path, intent) => (path, intent.withoutPurpose)

theorem withoutPurposes_enterIntent (intent : FileIntent) (roles : List (String × FileIntent)) :
    withoutPurposes (enterIntent intent roles) =
      enterIntent intent.withoutPurpose (withoutPurposes roles) := by
  induction roles with
  | nil => rfl
  | cons role roles ih =>
    have hpath : intent.withoutPurpose.path = intent.path := rfl
    by_cases h : role.1 = intent.path
    · simp [withoutPurposes, enterIntent, hpath, h]
    · simpa [withoutPurposes, enterIntent, hpath, h] using ih

/-- Up to their purposes, the roles of the files are told from the paths. -/
theorem withoutPurposes_files_sequential (r : Reviewer) (history : AccuracyStore)
    (files : List ReviewFile) :
    withoutPurposes (r.sequential history files).files =
      (files.map (·.path)).foldl (fun done path => enterIntent (.classify path "") done) [] := by
  have hfold : ∀ roles, withoutPurposes
      (files.foldl (fun done f => enterIntent (.classify f.path f.content) done) roles) =
      (files.map (·.path)).foldl (fun done path => enterIntent (.classify path "") done)
        (withoutPurposes roles) := by
    induction files with
    | nil =>
      intro roles
      rfl
    | cons f files ih =>
      intro roles
      rw [List.foldl_cons, ih, withoutPurposes_enterIntent, FileIntent.withoutPurpose_classify]
      rfl
  rw [files_sequential, hfold]
  rfl

end Reviewer

namespace Value

/-- The value with the member under a key of it changed, if it is a table. -/
def mapMember (key : String) (change : Value → Value) : Value → Value
  | .table fields => .table (fields.map fun (k, v) => (k, if k = key then change v else v))
  | v => v

def mapMembers (change : Value → Value) : Value → Value
  | .table fields => .table (fields.map fun (k, v) => (k, change v))
  | v => v

end Value

/-- A report for other programs without its time, the purpose of the change and the purposes of
the files. -/
def Report.withoutPurposes (report : Value) : Value :=
  ((report.mapMember "meta" (.mapMember "generated_at" fun _ => .null)).mapMember "pr_intent"
    fun _ => .null).mapMember "files" (.mapMembers (.mapMember "purpose" fun _ => .null))

/-- The outcomes tell the same of the change: they differ in what is said of the purpose of the
change and of its files at most, and only reports for other programs show that. -/
structure ReviewResult.SameReports (a b : ReviewResult) : Prop where
  findings : a.findings = b.findings
  stats : a.stats = b.stats
  summary : a.summary = b.summary
  isPartial : a.isPartial = b.isPartial
  listing (minConfidence : Int) : Report.listing a minConfidence = Report.listing b minConfidence
  document (minConfidence : Int) :
    Report.document a minConfidence = Report.document b minConfidence
  data (time time' inputSource : String) (minConfidence : Int) :
    Report.withoutPurposes (Report.toValue a ⟨time, inputSource, minConfidence⟩) =
      Report.withoutPurposes (Report.toValue b ⟨time', inputSource, minConfidence⟩)

namespace ReviewResult

theorem fileValues_withoutPurposes (roles : List (String × FileIntent)) :
    (Value.table (roles.map fun (path, intent) => (path, Report.fileValue intent))).mapMembers
        (.mapMember "purpose" fun _ => .null) =
      .table ((Reviewer.withoutPurposes roles).map fun (path, intent) =>
        (path, Report.fileValue intent)) := by
  simp [Value.mapMembers, Value.mapMember, Reviewer.withoutPurposes, Report.fileValue,
    FileIntent.withoutPurpose, Finding.optionalText]

/-- What a report says without purposes, told from an outcome without them. -/
theorem withoutPurposes_toValue (a : ReviewResult) (origin : Report.Origin) :
    Report.withoutPurposes (Report.toValue a origin) =
      .table [
        ("findings", .list ((Report.visible origin.minConfidence a.findings).map fun f =>
          .table (f.toFields ++ [("body", .text f.body)]))),
        ("summary", .text a.summary),
        ("stats", a.stats.toValue),
        ("categories", .table (Category.all.map fun c => (c.name, Report.categoryValue c))),
        ("pr_intent", .null),
        ("files", .table ((Reviewer.withoutPurposes a.files).map fun (path, intent) =>
          (path, Report.fileValue intent))),
        ("partial", .bool a.isPartial),
        ("meta", .table [
          ("generated_at", .null),
          ("input_source", .text origin.inputSource),
          ("min_confidence", .int origin.minConfidence),
          ("version", .text version)])] := by
  rw [← fileValues_withoutPurposes]
  simp [Report.withoutPurposes, Report.toValue, Value.mapMember]

/-- Outcomes that agree up to the purposes tell the same of the change. -/
theorem sameReports {a b : ReviewResult} (hfindings : a.findings = b.findings)
    (hstats : a.stats = b.stats) (hsummary : a.summary = b.summary)
    (hpartial : a.isPartial = b.isPartial)
    (hfiles : Reviewer.withoutPurposes a.files = Reviewer.withoutPurposes b.files) :
    a.SameReports b where
  findings := hfindings
  stats := hstats
  summary := hsummary
  isPartial := hpartial
  listing := by
    intro minConfidence
    rw [Report.listing, Report.listing, hfindings, hstats, hpartial]
  document := by
    intro minConfidence
    rw [Report.document, Report.document, hfindings, hsummary]
  data := by
    intro time time' inputSource minConfidence
    rw [withoutPurposes_toValue, withoutPurposes_toValue, hfindings, hstats, hsummary, hpartial,
      hfiles]

end ReviewResult

/-- Neither the text around the changed lines nor the purpose of the change shows in a report. -/
theorem Reviewer.sameReports_sequential (r : Reviewer) (change : Option ChangeIntent)
    (history : AccuracyStore) {files files' : List ReviewFile}
    (h : List.Forall₂ ReviewFile.SameLines files files') :
    (r.sequential history files).SameReports
      (({ r with change } : Reviewer).sequential history files') := by
  have hfindings := findings_sequential_congr r change history h
  refine ReviewResult.sameReports hfindings ?_ ?_ ?_ ?_
  · rw [stats_sequential, stats_sequential, hfindings]
  · rw [summary_sequential, summary_sequential, stats_sequential, stats_sequential, hfindings]
  · rw [isPartial_sequential, isPartial_sequential]
  · rw [withoutPurposes_files_sequential, withoutPurposes_files_sequential,
      ReviewFile.SameLines.map_path h]

end PatchReview
