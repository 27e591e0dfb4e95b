import PatchReview.CommandLine.Setup
import PatchReview.Config.Template
import PatchReview.Intent.Function
import PatchReview.Intent.Summary
import PatchReview.Json

/-! The commands that show what the program knows: rules, detectors, classifications and the
configuration. -/
namespace PatchReview.CommandLine

def dataText (fields : List (String × Value)) : String := Json.text .ascii (.table fields)

def ruleLine (bucket : String) (r : Rule) : String :=
  "- [" ++ bucket ++ "] " ++ r.text ++ " (" ++ r.severity ++ ", " ++
    (if r.isPattern then "pattern" else "note") ++ "; checks: " ++
    Text.join ", " (Check.names r.checks) ++ ")"

def ruleListing (rules : RuleSet) : String :=
  Text.join "\n" (
    ("Rules from " ++ orElse (rules.source.getD "") "defaults" ++ ":") ::
    (rules.entries.map fun (bucket, r) => ruleLine bucket r) ++
    if rules.tone.isEmpty then [] else ["Tone: " ++ rules.tone])

def detectorValue (active : List DetectorKind) (kind : DetectorKind) : Value :=
  .table [
    ("detector_id", .text kind.id),
    ("name", .text kind.title),
    ("description", .text kind.description),
    ("languages", textsValue kind.languages),
    ("enabled", .bool (active.contains kind))]

def detectorLine (active : List DetectorKind) (kind : DetectorKind) : String :=
  "- " ++ kind.id ++ " [" ++ (if active.contains kind then "enabled" else "disabled") ++ "] - " ++
    kind.description

def fileValue (change : Option ChangeIntent) (file : FileIntent) : Value :=
  .table [
    ("path", .text file.path),
    ("type", .text file.type.name),
    ("strictness", .text file.profile.strictness.name),
    ("allowed_exceptions", textsValue (file.profile.allowed.mergeSort (· ≤ ·))),
    ("summary", .text (contextSummary file change))]

def functionValue (f : FunctionIntent) : Value :=
  .table [
    ("name", .text f.name),
    ("purpose", .text f.purpose.name),
    ("allow_lower_standards", .bool f.allowLowerStandards)]

def changeLine (c : ChangeIntent) : String :=
  "PR: " ++ c.type.name ++ " (" ++ c.strictness.name ++ "); focus: " ++
    orElse (Text.join ", " c.focusAreas) "none"

/-- Shows how names and titles are classified. -/
def showIntent (o : IntentOptions) : Except CommandError Answer := do
  let asData ← wantsData o.format
  let title := o.title.getD ""
  let change ←
    if title.isEmpty && o.labels.isEmpty then pure none
    else ((ChangeIntent.classify title (textsValue o.labels)).map some).mapError .unknownType
  let files := o.paths.map (FileIntent.classify · "")
  let functions := o.functions.map FunctionIntent.classify
  if asData then
    return { output := dataText [
      ("files", .list (files.map (fileValue change))),
      ("pr", match change with
        | some c => c.toValue
        | none => .null),
      ("functions", .list (functions.map functionValue))] }
  else
    let lines := (change.map changeLine).toList ++
      (files.map fun f => f.path ++ ": " ++ contextSummary f change) ++
      functions.map fun f => f.name ++ "(): " ++ f.purpose.name
    return { output := orElse (Text.join "\n" lines) "Nothing to classify." }

def configListing (c : Config) (active : List DetectorKind) : String :=
  let line (name : String) (v : Value) : String := "- " ++ name ++ ": " ++ v.asText
  Text.join "\n" [
    "Resolved configuration:",
    "- source: " ++ orElse (c.source.getD "") "defaults",
    line "format" (.text c.format.name),
    line "min_confidence" (.int c.minConfidence),
    line "fail_on" (Finding.optionalText (c.failOn.map Category.choice)),
    line "rules_file" (Finding.optionalText c.rulesFile),
    line "include" (textsValue c.scope.included),
    line "exclude" (textsValue c.scope.excluded),
    line "review" c.limitsValue,
    line "patterns" (textsValue (c.patterns.map (·.ruleId))),
    line "active_detector_ids" (textsValue (active.map DetectorKind.id))]

variable {m : Type → Type} [Monad m]

def showRules (host : Host m) (setting : Setting) (given : Option Path) (format : String) :
    Task CommandError m Answer := do
  let asData ← wantsData format
  let config ← loadConfig host setting
  let rules ← loadRules host setting given config
  return { output := if asData then Json.text .ascii rules.toValue else ruleListing rules }

def showDetectors (host : Host m) (setting : Setting) (format : String) :
    Task CommandError m Answer := do
  let asData ← wantsData format
  let config ← loadConfig host setting
  let active := (← setUpDetectors {} config).map Detector.kind
  let output :=
    if asData then dataText [
      ("detectors", .list (DetectorKind.all.map (detectorValue active))),
      ("meta", .table [("config_source", Finding.optionalText config.source)])]
    else Text.join "\n"
      ("Available detectors:" :: DetectorKind.all.map (detectorLine active))
  return { output }

def showConfig (host : Host m) (setting : Setting) (format : String) :
    Task CommandError m Answer := do
  let asData ← wantsData format
  let config ← loadConfig host setting
  let active := (← setUpDetectors {} config).map Detector.kind
  let ids := textsValue (active.map DetectorKind.id)
  let output :=
    if asData then dataText (config.toFields ++ [("active_detector_ids", ids)])
    else configListing config active
  return { output }

def initConfig (host : Host m) (out : Path) (force : Bool) : Task CommandError m Answer := do
  let path := Path.resolve host.workingDirectory out
  let entry ← Task.ask (host.entry path)
  if let .unreachable cause := entry then throw (.unreachable path cause)
  if entry.isPresent && !force then
    throw (.badValue none ("Refusing to overwrite existing file: " ++ path.toString ++
      ". Use --force to overwrite."))
  match entry, ← Task.ask (host.entry path.parent) with
  | .directory, _ => throw (.isDirectory path)
  | _, .file _ => throw (.fileInTheWay path.parent)
  | _, .notADirectory => throw (.notADirectory path.parent)
  | _, _ =>
    return {
      output := "Wrote starter config: " ++ path.toString
      written := some (path, Config.template) }

end PatchReview.CommandLine
