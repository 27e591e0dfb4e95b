import PatchReview.CommandLine.Setup
import PatchReview.Host.Git
import PatchReview.Patch.Reader
import PatchReview.Report.Data
import PatchReview.Review.PullRequest

/-! The review of a change: where its text comes from, which of its files are reviewed, and what
is reported. -/
namespace PatchReview.CommandLine

inductive InputSource where
  | diffFile (path : Path)
  | input
  | gitRange (base head : String)
  | gitWorkingTree

namespace InputSource

def name : InputSource → String
  | diffFile path => "diff_file:" ++ path.toString
  | input => "stdin"
  | gitRange .. => "git_range"
  | gitWorkingTree => "git_working_tree"

/-- Whether the files of the change are expected to be at hand. -/
def isGit (source : InputSource) : Bool := "git".toList.isPrefixOf source.name.toList

def ofOptions (o : ReviewOptions) : Except CommandError InputSource :=
  match o.diffFile, o.fromInput, o.base, o.head with
  | some _, true, _, _ =>
    .error (.badValue none "Use either --diff-file or --stdin, not both.")
  | _, _, some _, none | _, _, none, some _ =>
    .error (.badValue none "Provide both --base and --head together.")
  | some path, false, _, _ => .ok (.diffFile path)
  | none, true, _, _ => .ok .input
  | none, false, some base, some head => .ok (.gitRange base head)
  | none, false, none, none => .ok .gitWorkingTree

/-- The error that a call of the version control leads to. -/
def callError : Git.CallError → CommandError
  | .refused why => .badValue none why
  | .notStarted cause => .notStarted cause
  | .notText => .notText
  | .nullCharacter => .nullInPath

variable {m : Type → Type} [Monad m]

def read (host : Host m) (repository : Path) : InputSource → Task CommandError m String
  | diffFile path => do
    match ← Task.ask (host.readText path) with
    | .ok text => return text
    | .error .notText => throw .notText
    | .error .nullCharacter => throw .nullInPath
    | .error e => throw (.badValue (some "--diff-file") (e.message path))
  | input => do
    let text ← Task.ask host.input
    return String.ofList (Text.normalizeNewlines text.toList)
  | gitRange base head => (Git.diffBetween host repository base head).adapt callError
  | gitWorkingTree => (Git.workingTreeDiff host repository).adapt callError

end InputSource

/-- What the options and the configuration together ask for. -/
structure ReviewPlan where
  source : InputSource
  format : OutputFormat
  minConfidence : Int
  failOn : Option Category
  scope : PathScope
  limits : ReviewLimits
  maxFiles : Nat

/-- What is asked for; options count before the configuration. -/
def ReviewPlan.ofOptions (o : ReviewOptions) (config : Config) : Except CommandError ReviewPlan := do
  let format ← choose OutputFormat.all OutputFormat.name "--format"
    (orElse (o.format.getD "") config.format.name)
  let minConfidence := o.minConfidence.getD config.minConfidence
  if minConfidence < 0 ∨ 100 < minConfidence then
    throw (.badValue (some "--min-confidence") "must be between 0 and 100")
  let failOn ← match o.failOn with
    | some name => (choose Category.all Category.choice "--fail-on" name).map some
    | none => pure config.failOn
  let source ← InputSource.ofOptions o
  let timeout := match o.timeout with
    | some t => some t
    | none => config.timeout
  return {
    source
    format
    minConfidence
    failOn
    scope := ⟨o.included.getD config.scope.included, o.excluded.getD config.scope.excluded⟩
    limits := ⟨o.workers.getD config.workers, timeout.map .fractional⟩
    maxFiles := config.maxFiles.toNat }

/-- The file under review that a patch leads to: its added lines are reviewed. -/
def fileOfPatch (patch : FilePatch) (content : String) : ReviewFile :=
  ⟨patch.path, content, some (patch.addedLines.map fun (n, s) => ⟨n, s⟩)⟩

variable {m : Type → Type} [Monad m]

/-- The text of a file in the working directory of the repository, if it can be read. -/
def worktreeFile (host : Host m) (repository : Path) (path : String) :
    Task CommandError m (Option String) := do
  let target := repository.append (Path.ofString path)
  match ← Task.ask (host.readText target) with
  | .ok text => return some text
  | .error .nullCharacter => throw .nullInPath
  | .error e =>
    Task.note ⟨.debug, "Could not read " ++ target.toString ++ ": " ++ e.message target⟩
    return none

/-- The file under review that a patch leads to. The text of the file tells its role; where it is
not at hand the added lines stand for it. -/
def loadFile (host : Host m) (o : ReviewOptions) (source : InputSource) (patch : FilePatch) :
    Task CommandError m ReviewFile := do
  let content ← match o.head with
    | some revision =>
      (Git.fileAt host o.setting.repository revision patch.path).adapt InputSource.callError
    | none => worktreeFile host o.setting.repository patch.path
  match content with
  | some text => return fileOfPatch patch text
  | none =>
    if source.isGit then
      Task.note ⟨.warning,
        patch.path ++ ": full content unavailable, reviewing added lines only"⟩
    return fileOfPatch patch patch.addedText

/-- The patches that are reviewed: those in scope, as many as are allowed. -/
def selectPatches (plan : ReviewPlan) (patches : List FilePatch) :
    Task CommandError m (List FilePatch) := do
  let selected := plan.scope.select patches
  if plan.maxFiles < selected.length then
    Task.note ⟨.warning, "Reviewing the first " ++ toString plan.maxFiles ++ " of " ++
      toString selected.length ++ " changed files"⟩
  return selected.take plan.maxFiles

/-- The purpose of the change, if the options tell anything about it. -/
def purpose (o : ReviewOptions) : Except CommandError (Option ChangeIntent) :=
  let title := o.title.getD ""
  if title.isEmpty && (o.body.getD "").isEmpty && o.labels.isEmpty then .ok none
  else
    ((ChangeIntent.classify title (textsValue o.labels)).map some).mapError .unknownType

/-- The report in the form that is asked for. -/
def report (host : Host m) (plan : ReviewPlan) (result : ReviewResult) : m String := do
  match plan.format with
  | .json =>
    return Report.json result ⟨← host.time, plan.source.name, plan.minConfidence⟩
  | .markdown => return Report.document result plan.minConfidence
  | .human => return Report.listing result plan.minConfidence

/-- The patches that the text of the change holds. -/
def readPatches (text : String) : Except CommandError (List FilePatch) :=
  (FilePatch.readDiff? text).mapError fun e => .badValue (some "diff") e.message

/-- Refuses limits under which no review could run. -/
def checkLimits (limits : ReviewLimits) : Except CommandError Unit :=
  limits.check.mapError fun e => .badValue none e.message

/-- Reviews files within limits that have been checked, and writes the log of it. -/
def runReview (r : Reviewer) (limits : ReviewLimits) (inTime : ReviewFile → Bool)
    (files : List ReviewFile) : Task CommandError m ReviewResult := do
  if Reviewer.waitFails limits inTime files then throw .waitTooLong
  let run := r.runFiles {} limits inTime files
  run.log.forM Task.note
  return run.result

/-- Refuses to report on a line whose number cannot be written. -/
def checkNumbers (plan : ReviewPlan) (result : ReviewResult) : Except CommandError Unit :=
  if Report.isWritable plan.minConfidence result then .ok () else .error .integerTooLong

/-- The review of a change on a machine that gets the reviews of certain files done in time. -/
def review (host : Host m) (o : ReviewOptions) (inTime : ReviewFile → Bool := fun _ => true) :
    Task CommandError m Answer := do
  let config ← loadConfig host o.setting
  let plan ← ReviewPlan.ofOptions o config
  let rules ← loadRules host o.setting o.rules config
  let detectors ← setUpDetectors rules config
  let text ← plan.source.read host o.setting.repository
  let selected ← selectPatches plan (← readPatches text)
  let files ← selected.mapM (loadFile host o plan.source)
  let change ← purpose o
  checkLimits plan.limits
  let result ← runReview ⟨rules, detectors, change⟩ plan.limits inTime files
  checkNumbers plan result
  let output ← Task.ask (report host plan result)
  let visible := Report.visible plan.minConfidence result.findings
  return { output, isFailing := Report.reaches plan.failOn visible }

end PatchReview.CommandLine
