import PatchReview.CommandLine.Options
import PatchReview.Number.Reading
import PatchReview.Path

/-! The commands of the program with their options. -/
namespace PatchReview.CommandLine

inductive UsageError where
  /-- The words do not follow the grammar, or a value is not of its kind. -/
  | malformed
  /-- A path holds the character with the number zero. -/
  | nullInPath

/-- The options that several commands share. -/
structure Setting where
  repository : Path := ⟨"", []⟩
  config : Option Path := none

structure ReviewOptions where
  setting : Setting
  diffFile : Option Path
  fromInput : Bool
  base : Option String
  head : Option String
  title : Option String
  body : Option String
  labels : List String
  rules : Option Path
  format : Option String
  minConfidence : Option Int
  failOn : Option String
  included : Option (List String)
  excluded : Option (List String)
  workers : Option Int
  timeout : Option Binary64

/-- The options of the classification of names and titles. -/
structure IntentOptions where
  paths : List String
  title : Option String
  labels : List String
  functions : List String
  format : String

inductive Command where
  | version
  | help
  | review (o : ReviewOptions)
  | rules (setting : Setting) (rules : Option Path) (format : String)
  | detectors (setting : Setting) (format : String)
  | intent (o : IntentOptions)
  | config (setting : Setting) (format : String)
  | configInit (out : Path) (force : Bool)

def frontSpec : Spec :=
  ⟨[], [("--version", "version", true), ("--help", "help", true)]⟩

def helpSwitch : String × String × Bool := ("--help", "help", true)

/-- The options of the commands by their names. -/
def specs : List (String × Spec) := [
    ("review",
      ⟨["--diff-file", "--repo", "--base", "--head", "--title", "--body", "--label", "--rules",
          "--format", "--min-confidence", "--fail-on", "--include", "--exclude", "--workers",
          "--timeout", "--config"],
        [("--stdin", "stdin", true), ("--no-stdin", "stdin", false), helpSwitch]⟩),
    ("rules", ⟨["--repo", "--rules", "--format", "--config"], [helpSwitch]⟩),
    ("detectors", ⟨["--repo", "--format", "--config"], [helpSwitch]⟩),
    ("intent", ⟨["--title", "--label", "--function", "--format"], [helpSwitch]⟩),
    ("config", ⟨["--repo", "--format", "--config"], [helpSwitch]⟩),
    ("config-init", ⟨["--out"], [("--force", "force", true), helpSwitch]⟩)]

namespace Given

def path? (g : Given) (name : String) : Except UsageError (Option Path) :=
  match g.last? name with
  | none => .ok none
  | some s =>
    if s.toList.contains '\x00' then .error .nullInPath else .ok (some (Path.ofString s))

/-- The value of an option that is read in some way. -/
def read? {α : Type} (reader : String → Option α) (g : Given) (name : String) :
    Except UsageError (Option α) :=
  match g.last? name with
  | none => .ok none
  | some s =>
    match reader s with
    | some v => .ok (some v)
    | none => .error .malformed

/-- All values of an option, if there are any. -/
def all? (g : Given) (name : String) : Option (List String) :=
  match g.all name with
  | [] => none
  | values => some values

def setting (g : Given) : Except UsageError Setting := do
  let repository ← g.path? "--repo"
  let config ← g.path? "--config"
  return ⟨repository.getD (Path.ofString "."), config⟩

/-- The form of reports where it is for people unless told otherwise. -/
def format (g : Given) : String := (g.last? "--format").getD "human"

def reviewOptions (g : Given) : Except UsageError ReviewOptions := do
  let minConfidence ← g.read? Number.readInt? "--min-confidence"
  let workers ← g.read? Number.readInt? "--workers"
  let timeout ← g.read? Number.readFloat? "--timeout"
  let setting ← g.setting
  let diffFile ← g.path? "--diff-file"
  let rules ← g.path? "--rules"
  return {
    setting
    diffFile
    fromInput := g.isOn "stdin"
    base := g.last? "--base"
    head := g.last? "--head"
    title := g.last? "--title"
    body := g.last? "--body"
    labels := g.all "--label"
    rules
    format := g.last? "--format"
    minConfidence
    failOn := g.last? "--fail-on"
    included := g.all? "--include"
    excluded := g.all? "--exclude"
    workers
    timeout }

end Given

namespace Command

def ofOptions (name : String) (g : Given) : Except UsageError Command := do
  match name with
  | "review" => return review (← g.reviewOptions)
  | "rules" => return rules (← g.setting) (← g.path? "--rules") g.format
  | "detectors" => return detectors (← g.setting) g.format
  | "intent" =>
    return intent ⟨g.arguments, g.last? "--title", g.all "--label", g.all "--function", g.format⟩
  | "config" => return config (← g.setting) g.format
  | "config-init" =>
    return configInit ((← g.path? "--out").getD (Path.ofString ".diff-review.toml"))
      (g.isOn "force")
  | _ => throw .malformed

/-- The command with a name and its words. Only the classification of names has arguments. -/
def ofGiven (name : String) (g : Given) : Except UsageError Command := do
  if g.isOn "help" then return help
  let command ← ofOptions name g
  if name != "intent" && !g.arguments.isEmpty then throw .malformed
  return command

def ofWords (words : List String) : Except UsageError Command :=
  match words, frontSpec.readFront? words with
  | [], _ => .ok help
  | _, none => .error .malformed
  | _, some front =>
    if front.isOn "help" then .ok help
    else if front.isOn "version" then .ok version
    else match front.arguments with
      | [] => .error .malformed
      | name :: rest =>
        match (specs.lookup name).bind (·.read? rest) with
        | some g => ofGiven name g
        | none => .error .malformed

end Command
end PatchReview.CommandLine
