import PatchReview.Detector.Selection
import PatchReview.Finding.Basic
import PatchReview.Patch.Selection

/-! The configuration of a review. -/
namespace PatchReview

inductive OutputFormat where
  | human
  | json
  | markdown
deriving DecidableEq

namespace OutputFormat

def all : List OutputFormat := [human, json, markdown]

def name : OutputFormat → String
  | human => "human"
  | json => "json"
  | markdown => "markdown"

def ofName? (s : String) : Option OutputFormat := all.find? (·.name == s)

end OutputFormat

namespace Category

/-- The name by which a kind of findings is chosen. -/
def choice : Category → String
  | bug => "bug"
  | refactor => "refactor"
  | suggestion => "suggestion"

def ofChoice? (s : String) : Option Category := all.find? (·.choice == s)

end Category

/-- How a review is run and what is reported. -/
structure Config where
  format : OutputFormat := .human
  /-- Findings with less confidence are not shown. -/
  minConfidence : Int := 0
  /-- The least urgent kind of findings that makes a review fail. -/
  failOn : Option Category := none
  rulesFile : Option String := none
  scope : PathScope := ⟨[], []⟩
  detectors : DetectorChoice := {}
  patterns : List CustomPattern := []
  maxFiles : Int := 50
  workers : Int := 1
  /-- The time in seconds after which a review ends. -/
  timeout : Option Binary64 := none
  logLevel : String := "WARNING"
  source : Option String := none

def textsValue (texts : List String) : Value := .list (texts.map .text)

def CustomPattern.toValue (p : CustomPattern) : Value :=
  .table [
    ("rule_id", .text p.ruleId),
    ("message", .text p.message),
    ("regex", Finding.optionalText p.regex),
    ("keyword", Finding.optionalText p.keyword),
    ("suggestion", Finding.optionalText p.suggestion),
    ("tags", textsValue p.tags),
    ("languages", textsValue p.languages)]

namespace Config

def limitsValue (c : Config) : Value :=
  .table [
    ("max_files", .int c.maxFiles),
    ("workers", .int c.workers),
    ("timeout_seconds", match c.timeout with
      | some t => .float t
      | none => .null)]

def detectorsValue (c : Config) : Value :=
  .table [
    ("enable", match c.detectors.enabled with
      | some ids => textsValue ids
      | none => .null),
    ("disable", textsValue c.detectors.disabled)]

/-- The configuration as the fields of a table. -/
def toFields (c : Config) : List (String × Value) := [
    ("format", .text c.format.name),
    ("min_confidence", .int c.minConfidence),
    ("fail_on", Finding.optionalText (c.failOn.map Category.choice)),
    ("rules_file", Finding.optionalText c.rulesFile),
    ("include", textsValue c.scope.included),
    ("exclude", textsValue c.scope.excluded),
    ("detectors", c.detectorsValue),
    ("patterns", .list (c.patterns.map CustomPattern.toValue)),
    ("review", c.limitsValue),
    ("log_level", .text c.logLevel),
    ("source", Finding.optionalText c.source)]

end Config
end PatchReview
