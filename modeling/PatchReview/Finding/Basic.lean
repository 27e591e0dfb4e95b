import PatchReview.Finding.Category
import PatchReview.Value

/-! Findings, their order in reports, and their numbers. -/
namespace PatchReview

/-- A problem on one line of one file, with its kind and the confidence in it. -/
structure Finding where
  path : String
  line : Int
  message : String
  suggestion : Option String
  severity : String
  confidence : Int
  category : Category
  emoji : String := category.emoji
  sortOrder : Int
  ruleId : Option String := none
  tags : List String := []

namespace Finding

/-- Whether `a` may stand before `b` in reports: the more urgent kind first, and of one kind that
with the higher confidence. -/
def comesBefore (a b : Finding) : Bool :=
  a.sortOrder < b.sortOrder || (a.sortOrder == b.sortOrder && b.confidence ≤ a.confidence)

/-- The findings in the order of reports. Equal ones keep their order. -/
def sort (findings : List Finding) : List Finding := findings.mergeSort comesBefore

def optionalText : Option String → Value
  | some s => .text s
  | none => .null

def toFields (f : Finding) : List (String × Value) := [
    ("path", .text f.path),
    ("line", .int f.line),
    ("message", .text f.message),
    ("suggestion", optionalText f.suggestion),
    ("severity", .text f.severity),
    ("confidence", .int f.confidence),
    ("category", .text f.category.name),
    ("emoji", .text f.emoji),
    ("sort_order", .int f.sortOrder),
    ("rule_id", optionalText f.ruleId),
    ("tags", .list (f.tags.map .text))]

end Finding

structure FindingStats where
  total : Nat
  bugs : Nat
  refactors : Nat
  suggestions : Nat
  critical : Nat
  high : Nat
  medium : Nat
  low : Nat
deriving DecidableEq

namespace FindingStats

/-- The numbers of findings of each kind and each severity. -/
def ofFindings (findings : List Finding) : FindingStats where
  total := findings.length
  bugs := findings.countP (·.category = .bug)
  refactors := findings.countP (·.category = .refactor)
  suggestions := findings.countP (·.category = .suggestion)
  critical := findings.countP (·.severity = Severity.critical.name)
  high := findings.countP (·.severity = Severity.high.name)
  medium := findings.countP (·.severity = Severity.medium.name)
  low := findings.countP (·.severity = Severity.low.name)

def toValue (s : FindingStats) : Value :=
  .table [
    ("total", .int s.total),
    ("bugs", .int s.bugs),
    ("refactors", .int s.refactors),
    ("suggestions", .int s.suggestions),
    ("critical", .int s.critical),
    ("high", .int s.high),
    ("medium", .int s.medium),
    ("low", .int s.low)]

end FindingStats
end PatchReview
