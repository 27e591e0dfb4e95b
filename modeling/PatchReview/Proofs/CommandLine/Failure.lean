import PatchReview.Proofs.CommandLine.Paths
import PatchReview.Proofs.CommandLine.Threshold
import PatchReview.Proofs.Detector.Choice
import PatchReview.Proofs.Host.Loading

/-! How a review of a file with a diff ends on the command line. It reports what it finds, or it
refuses a value and reports nothing. Some inputs get past its checks and end it in another way: names
that are too long, a directory in the place of the configuration, a number in the configuration that
is too large, texts that are none, paths and revisions that cannot be asked for, a version control that
does not start, a wait that is to last too long, and lines with numbers that cannot be written. -/
namespace PatchReview.CommandLine

/-- The error refuses a value. -/
def CommandError.IsRefusal (e : CommandError) : Prop := ∃ hint why, e = .badValue hint why

/-- The directory below which a review looks for its configuration and its rules. -/
def Setting.directory (setting : Setting) (host : Host Id) : Path :=
  Path.resolve host.workingDirectory setting.repository

/-- The text in the file with the diff, if there is one. -/
def diffText? (host : Host Id) (path : Path) : Option String :=
  match host.look path with
  | .file content =>
    (String.fromUTF8? content).map fun s => String.ofList (Text.normalizeNewlines s.toList)
  | _ => none

/-- The patch is one of those in the file with the diff. -/
def HasPatch (host : Host Id) (o : ReviewOptions) (patch : FilePatch) : Prop :=
  ∃ path ∈ o.diffFile, ∃ text ∈ diffText? host path, ∃ patches,
    FilePatch.ofDiff? text = .ok patches ∧ patch ∈ patches

/-- The configuration that a review loads. -/
def HasConfig (host : Host Id) (o : ReviewOptions) (config : Config) : Prop :=
  Config.load host o.setting.repository o.setting.config = Except.ok config

/-- Where the rules come from, if that is told: the option counts before the configuration. -/
def rulesPath (o : ReviewOptions) (config : Config) : Option Path :=
  match o.rules with
  | some path => some path
  | none => config.rulesFile.map Path.ofString

/-- How long a review may take: the option counts before the configuration. -/
def timeoutOf (o : ReviewOptions) (config : Config) : Option Seconds :=
  (match o.timeout with
    | some t => some t
    | none => config.timeout).map .fractional

/-- Errors that refuse no value, each with the input that has led to it. -/
inductive IsDerailed (host : Host Id) (o : ReviewOptions) (inTime : ReviewFile → Bool) :
    CommandError → Prop
  | configUnreachable {path : Path} {cause : String} :
      IsSource Config.sourceNames (o.setting.directory host) o.setting.config path →
      host.look path = .unreachable cause → IsDerailed host o inTime (.unreachable path cause)
  | configDirectory {path : Path} :
      IsSource Config.sourceNames (o.setting.directory host) o.setting.config path →
      host.look path = .directory → IsDerailed host o inTime (.isDirectory path)
  | configNumber {path : Path} {content : ByteArray} {fields : List (String × Value)} :
      IsSource Config.sourceNames (o.setting.directory host) o.setting.config path →
      host.look path = .file content → Config.readContent path content = .ok fields →
      Config.IsStray fields .numberTooLarge → IsDerailed host o inTime .numberTooLarge
  | rulesUnreachable {config : Config} {path : Path} {cause : String} : HasConfig host o config →
      IsSource RuleSet.fileNames (o.setting.directory host) (rulesPath o config) path →
      host.look path = .unreachable cause → IsDerailed host o inTime (.unreachable path cause)
  | diffNotText {path : Path} {content : ByteArray} : o.diffFile = some path →
      host.look path = .file content → String.fromUTF8? content = none →
      IsDerailed host o inTime .notText
  | nullInPatch {patch : FilePatch} : HasPatch host o patch → '\x00' ∈ patch.path.toList →
      IsDerailed host o inTime .nullInPath
  | nullInRevision {revision : String} : o.head = some revision → '\x00' ∈ revision.toList →
      IsDerailed host o inTime .nullInPath
  | gitNotStarted {patch : FilePatch} {revision cause : String} : HasPatch host o patch →
      o.head = some revision →
      host.git ["show", revision ++ ":" ++ patch.path] = .notStarted cause →
      IsDerailed host o inTime (.notStarted cause)
  | revisionNotText {patch : FilePatch} {revision : String} : HasPatch host o patch →
      o.head = some revision → host.git ["show", revision ++ ":" ++ patch.path] = .notText →
      IsDerailed host o inTime .notText
  | longWait {config : Config} {t : Seconds} {patch : FilePatch} {content : String} :
      HasConfig host o config → timeoutOf o config = some t → t.isTooLong = true →
      HasPatch host o patch → inTime (fileOfPatch patch content) = false →
      IsDerailed host o inTime .waitTooLong
  | longNumber {patch : FilePatch} {n : Nat} {s : String} : HasPatch host o patch →
      (n, s) ∈ patch.addedLines → 10 ^ Number.maxDigits ≤ n →
      IsDerailed host o inTime .integerTooLong

/-- Errors that a review may end with. -/
def IsExpected (host : Host Id) (o : ReviewOptions) (inTime : ReviewFile → Bool)
    (e : CommandError) : Prop :=
  e.IsRefusal ∨ IsDerailed host o inTime e

section Steps
variable {host : Host Id} {o : ReviewOptions} {inTime : ReviewFile → Bool} {config : Config}
  {rules : RuleSet}

end Steps

section Run
variable {host : Host Id} {o : ReviewOptions} {inTime : ReviewFile → Bool} {words : List String}

end Run

/-! Runs on machines with a few files -/

deriving instance DecidableEq for CommandError

end PatchReview.CommandLine
