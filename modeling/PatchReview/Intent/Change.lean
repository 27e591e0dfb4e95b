import PatchReview.Intent.Strictness
import PatchReview.Text.Blank
import PatchReview.Text.Caseless
import PatchReview.Value

/-! The purpose of a change, told from the title and the labels of its pull request. A title
`type(scope): description` names a type of change; labels add to what the type implies. -/
namespace PatchReview

inductive ChangeType where
  | feature
  | fix
  | refactor
  | perf
  | docs
  | test
  | style
  | chore
  | build
  | ci
  | general
deriving DecidableEq

def ChangeType.name : ChangeType → String
  | feature => "feature"
  | fix => "fix"
  | refactor => "refactor"
  | perf => "perf"
  | docs => "docs"
  | test => "test"
  | style => "style"
  | chore => "chore"
  | build => "build"
  | ci => "ci"
  | general => "general"

/-- The declared purpose of a change and what a reviewer may expect of it. -/
structure ChangeIntent where
  type : ChangeType := .general
  scope : Option String := none
  description : String := ""
  expectTests : Bool := false
  expectDocs : Bool := false
  expectBenchmarks : Bool := false
  allowLargeDiffs : Bool := false
  skipChecks : Bool := false
  requireMigrationGuide : Bool := false
  focusAreas : List String := []
  strictness : Strictness := .normal
  urgent : Bool := false
  draft : Bool := false

namespace ChangeIntent

/-- The parts of a title with a type word. -/
structure Title where
  word : List Char
  scope : Option (List Char)
  description : List Char

/-- The words that stand for types of change in titles. -/
def typeWords : List (String × ChangeType) := [
    ("feat", .feature), ("fix", .fix), ("refactor", .refactor), ("perf", .perf),
    ("docs", .docs), ("test", .test), ("chore", .chore), ("style", .style),
    ("build", .build), ("ci", .ci)]

/-- A scope in parentheses that is not empty, and what follows it. -/
def splitScope : List Char → Option (List Char) × List Char
  | '(' :: rest =>
    match rest.dropWhile (· != ')'), rest.takeWhile (· != ')') with
    | ')' :: behind, c :: scope => (some (c :: scope), behind)
    | _, _ => (none, '(' :: rest)
  | s => (none, s)

/-- The description behind the colon: from the first character that is not blank to the end of
its line. If all are blank it is the last that is not a line feed. -/
def describe? (s : List Char) : Option (List Char) :=
  match Text.trimStart s with
  | [] => (s.reverse.find? (· != '\n')).map ([·])
  | rest => some (rest.takeWhile (· != '\n'))

/-- The parts of a title: a type word in any letter case, perhaps a scope, a colon and a
description. -/
def readTitle? (title : List Char) : Option Title := do
  let (word, rest) ← typeWords.findSome? fun t => Text.splitWord t.1.toList title
  match splitScope rest with
  | (scope, ':' :: behind) => (describe? behind).map (⟨word, scope, ·⟩)
  | _ => none

/-- What a type of change implies. -/
def imply (intent : ChangeIntent) : ChangeIntent :=
  match intent.type with
  | .feature =>
    { intent with
      expectTests := true
      expectDocs := true
      focusAreas := ["functionality", "edge-cases", "error-handling"] }
  | .fix =>
    { intent with
      expectTests := true
      focusAreas := ["correctness", "regression", "edge-cases"] }
  | .refactor =>
    { intent with
      allowLargeDiffs := true
      focusAreas := ["behavior-preservation", "no-logic-change", "maintainability"] }
  | .perf =>
    { intent with
      expectBenchmarks := true
      focusAreas := ["performance", "benchmarks", "algorithmic-complexity"] }
  | .docs => { intent with skipChecks := true, focusAreas := ["documentation-quality"] }
  | .test => { intent with focusAreas := ["test-coverage", "test-quality"] }
  | .style => { intent with focusAreas := ["consistency", "formatting"] }
  | .chore => { intent with strictness := .lenient }
  | .build | .ci | .general => intent

/-- A type word is written with a letter whose lower case is not the letter it stands for. -/
structure UnknownTypeWord where
  word : String
deriving DecidableEq

/-- The purpose that a title declares. A title without a type word is a description. -/
def ofTitle (title : String) : Except UnknownTypeWord ChangeIntent :=
  match readTitle? title.toList with
  | none => .ok { description := title }
  | some parts =>
    let word := String.ofList (Text.lower parts.word)
    match typeWords.lookup word with
    | none => .error ⟨word⟩
    | some type =>
      .ok (imply
        { type
          scope := parts.scope.map String.ofList
          description := String.ofList parts.description })

/-- Whether the name of a label speaks of one of `words`. -/
def mentions (words : List String) (label : List Char) : Bool := Text.occursAny words label

/-- The areas of attention that a label adds. -/
def labelAreas (label : List Char) : List String :=
  (if mentions ["breaking"] label then ["breaking-changes"] else []) ++
    (if mentions ["security"] label then ["security"] else [])

/-- The purpose with what labels add, whose names are in lower case. Security makes a review
strict, work in progress makes it lenient, and the latter wins. -/
def withLabels (intent : ChangeIntent) (labels : List (List Char)) : ChangeIntent :=
  let draft := labels.any (mentions ["wip", "draft"])
  { intent with
    requireMigrationGuide := intent.requireMigrationGuide || labels.any (mentions ["breaking"])
    focusAreas := intent.focusAreas ++ labels.flatMap labelAreas
    strictness :=
      if draft then .lenient
      else if labels.any (mentions ["security"]) then .strict
      else intent.strictness
    urgent := intent.urgent || labels.any (mentions ["hotfix", "urgent"])
    draft := intent.draft || draft }

/-- The name of a label: a text, or the text under `name` of a table. -/
def labelName? : Value → Option String
  | .text s => some s
  | .table fields =>
    match Value.field? "name" fields with
    | some (.text s) => some s
    | _ => none
  | _ => none

/-- The names of labels in lower case. Only a list has labels, and a table its keys. -/
def labelNames : Value → List (List Char)
  | .list items => (items.filterMap labelName?).map fun s => Text.lower s.toList
  | .table fields => fields.map fun f => Text.lower f.1.toList
  | _ => []

/-- The purpose of a change with a title and labels of any form. -/
def classify (title : String) (labels : Value) : Except UnknownTypeWord ChangeIntent :=
  (ofTitle title).map (·.withLabels (labelNames labels))

def toValue (c : ChangeIntent) : Value :=
  .table [
    ("change_type", .text c.type.name),
    ("scope", match c.scope with
      | some s => .text s
      | none => .null),
    ("description", .text c.description),
    ("expect_tests", .bool c.expectTests),
    ("expect_docs", .bool c.expectDocs),
    ("expect_benchmarks", .bool c.expectBenchmarks),
    ("allow_large_diffs", .bool c.allowLargeDiffs),
    ("skip_checks", .bool c.skipChecks),
    ("require_migration_guide", .bool c.requireMigrationGuide),
    ("focus_areas", .list (c.focusAreas.map .text)),
    ("strictness", .text c.strictness.name),
    ("urgent", .bool c.urgent),
    ("draft", .bool c.draft)]

end ChangeIntent
end PatchReview
