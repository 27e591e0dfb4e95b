/-! Kinds of findings, told from the tags and the rule of an issue. -/
namespace PatchReview

inductive Category where
  | bug
  | refactor
  | suggestion
deriving DecidableEq

inductive Severity where
  | critical
  | high
  | medium
  | low
deriving DecidableEq

def Severity.name : Severity → String
  | critical => "critical"
  | high => "high"
  | medium => "medium"
  | low => "low"

namespace Category

def all : List Category := [bug, refactor, suggestion]

def name : Category → String
  | bug => "BUG"
  | refactor => "REFACTOR"
  | suggestion => "SUGGESTION"

def ofName? (s : String) : Option Category := all.find? (·.name == s)

/-- What is said of a name that belongs to no kind. -/
def unknownMessage (listing : String) : String := listing ++ " is not a valid Category"

def emoji : Category → String
  | bug => "🔴"
  | refactor => "🟡"
  | suggestion => "🔵"

def sortOrder : Category → Int
  | bug => 1
  | refactor => 2
  | suggestion => 3

def color : Category → String
  | bug => "#ff4444"
  | refactor => "#ffaa00"
  | suggestion => "#4444ff"

def unknownColor : String := "#888888"

def description : Category → String
  | bug => "Must fix - potential errors, security issues, or crashes"
  | refactor => "Should fix - impacts maintainability or performance"
  | suggestion => "Nice to have - style improvements and best practices"

def bugTags : List String :=
  ["security", "vulnerability", "injection", "xss", "csrf", "logic-error", "null-reference",
    "undefined", "crash", "exception", "error", "race-condition", "deadlock", "leak",
    "memory-leak", "resource-leak", "type-error", "incorrect-operator", "wrong-comparison"]

def bugRules : List String :=
  ["sql-injection", "xss-vulnerability", "hardcoded-secrets", "insecure-random",
    "path-traversal", "command-injection", "xxe-vulnerability"]

/-- The tags of code that ought to be changed. -/
def refactorTags : List String :=
  ["complexity", "duplication", "dry-violation", "performance", "n+1-query",
    "inefficient-algorithm", "maintainability", "naming", "unclear-code", "documentation",
    "missing-docs", "coverage", "missing-tests", "design-pattern", "coupling", "cohesion"]

/-- The rules whose findings are code that ought to be changed. -/
def refactorRules : List String :=
  ["function-length", "function-complexity", "code-duplication", "nested-loops",
    "missing-error-handling", "unused-variable", "unused-import"]

def criticalBugTags : List String := ["security", "vulnerability"]

def highBugTags : List String := ["crash", "exception", "logic-error", "null-reference"]

/-- The tags of code that ought to be changed soon. -/
def highRefactorTags : List String := ["performance", "n+1-query", "missing-error-handling"]

def sharesTag (tags listed : List String) : Bool := tags.any listed.contains

/-- The kind and the severity of an issue. Signs of a bug count before all others. -/
def classify (tags : List String) (ruleId : Option String) : Category × Severity :=
  if sharesTag tags bugTags || ruleId.any bugRules.contains then
    (bug,
      if sharesTag tags criticalBugTags then .critical
      else if sharesTag tags highBugTags then .high
      else .medium)
  else if sharesTag tags refactorTags || ruleId.any refactorRules.contains then
    (refactor, if sharesTag tags highRefactorTags then .high else .medium)
  else (suggestion, .low)

end Category
end PatchReview
