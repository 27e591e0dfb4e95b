import PatchReview.Detector.Selection
import PatchReview.Intent.Change
import PatchReview.Log
import PatchReview.Review.File
import PatchReview.Review.Limits
import PatchReview.Review.Summary
import PatchReview.Score.Confidence

/-! Reviews. Every line under review is shown to every detector; each issue gets a confidence and
a kind, and the findings of all files are put in the order of reports. -/
namespace PatchReview

structure FileReview where
  intent : FileIntent
  language : String
  findings : List Finding

structure ReviewResult where
  findings : List Finding
  summary : String
  stats : FindingStats
  change : Option ChangeIntent := none
  /-- The role of each reviewed file by its path, in the order of first mention. -/
  files : List (String × FileIntent) := []
  /-- Some file was not reviewed in time. -/
  isPartial : Bool := false

/-- What reviews need: the rules, the detectors and the purpose of the change. -/
structure Reviewer where
  rules : RuleSet
  detectors : List Detector
  change : Option ChangeIntent := none

namespace Reviewer

/-- The finding that reports an issue on a line of a file. -/
def finding (history : AccuracyStore) (context : ScoreContext) (path : String) (line : Int)
    (issue : Issue) : Finding :=
  let (category, severity) := Category.classify issue.tags issue.ruleId
  { path
    line
    message := issue.message
    suggestion := issue.suggestion
    severity := severity.name
    confidence := Confidence.score history issue context
    category
    emoji := category.emoji
    sortOrder := category.sortOrder
    ruleId := issue.ruleId
    tags := issue.tags }

/-- What the detectors find on one line of a file. -/
def lineFindings (r : Reviewer) (history : AccuracyStore) (intent : FileIntent)
    (language path : String) (line : ChangedLine) : List Finding :=
  let context := ScoreContext.ofFile intent language
  (r.detectors.flatMap (·.detect ⟨line.content, language, intent⟩)).map
    (finding history context path line.number)

def reviewFile (r : Reviewer) (history : AccuracyStore) (f : ReviewFile) : FileReview :=
  let language := Language.ofPath f.path
  let intent := FileIntent.classify f.path f.content
  ⟨intent, language, f.linesUnderReview.flatMap (r.lineFindings history intent language f.path)⟩

/-- Enters the role of a file under its path, in place of an earlier one. -/
def enterIntent (intent : FileIntent) : List (String × FileIntent) → List (String × FileIntent)
  | [] => [(intent.path, intent)]
  | (p, i) :: rest =>
    if p = intent.path then (p, intent) :: rest else (p, i) :: enterIntent intent rest

/-- Puts the reviews of files together, which come in the order of the files; those that were cut
off are missing. -/
def collect (r : Reviewer) (reviews : List (Option FileReview)) : ReviewResult :=
  let done := reviews.filterMap id
  let findings := Finding.sort (done.flatMap (·.findings))
  let stats := FindingStats.ofFindings findings
  { findings
    summary := Summary.text findings stats r.rules.tone
    stats
    change := r.change
    files := done.foldl (fun files review => enterIntent review.intent files) []
    isPartial := reviews.any Option.isNone }

/-- Reviews the files that are done in time. -/
def review (r : Reviewer) (history : AccuracyStore) (inTime : ReviewFile → Bool)
    (files : List ReviewFile) : List (Option FileReview) :=
  files.map fun f => if inTime f then some (r.reviewFile history f) else none

end Reviewer

def FileReview.record (review : FileReview) : LogRecord :=
  ⟨.debug, review.intent.path ++ ": " ++ review.intent.type.name ++ " file (" ++ review.language ++
    "), " ++ toString review.findings.length ++ " finding(s)"⟩

/-- The warning that some of the files were cut off. -/
def timeoutRecord (timeout : Seconds) (missing total : Nat) : LogRecord :=
  ⟨.warning, "Review timed out after " ++ timeout.text ++ "s; " ++ toString missing ++ " of " ++
    toString total ++ " file(s) not analyzed"⟩

/-- The outcome of a review with its log. -/
structure ReviewRun where
  result : ReviewResult
  log : List LogRecord

namespace Reviewer

def runLog (limits : ReviewLimits) (reviews : List (Option FileReview)) : List LogRecord :=
  let missing := reviews.countP Option.isNone
  (reviews.filterMap id).map FileReview.record ++
    match limits.timeout with
    | some t => if missing = 0 then [] else [timeoutRecord t missing reviews.length]
    | none => []

/-- Reviews files within limits that have been checked, in a wait that does not fail. Without a
timeout no file is cut off. -/
def runFiles (r : Reviewer) (history : AccuracyStore) (limits : ReviewLimits)
    (inTime : ReviewFile → Bool) (files : List ReviewFile) : ReviewRun :=
  let reviews := r.review history (fun f => limits.timeout.isNone || inTime f) files
  ⟨r.collect reviews, runLog limits reviews⟩

/-- Whether the wait for the reviews of some files fails. Nobody notices that it is to last too long
if all of them are done when it begins. -/
def waitFails (limits : ReviewLimits) (inTime : ReviewFile → Bool) (files : List ReviewFile) : Bool :=
  limits.timeoutIsTooLong && !files.all inTime

end Reviewer

inductive ReviewError where
  | limit (e : LimitError)
  | file (e : FileError)
  /-- The wait for the reviews was to last too long. -/
  | wait

/-- Reviews files that are given as data. The limits are checked first, but for the length of the
wait, which shows when it begins. -/
def Reviewer.run (r : Reviewer) (history : AccuracyStore) (limits : ReviewLimits)
    (inTime : ReviewFile → Bool) (files : List Value) : Except ReviewError ReviewRun := do
  limits.check.mapError .limit
  let files ← (files.mapM ReviewFile.ofValue?).mapError .file
  if waitFails limits inTime files then throw .wait
  return r.runFiles history limits inTime files

end PatchReview
