import PatchReview.Text.Blank
import PatchReview.Text.Case
import PatchReview.Value

/-! Review rules. A rule is a sentence; the words in it decide which checks it asks for, whether
it describes a pattern to look for, and how severe it is. -/
namespace PatchReview

inductive Check where
  | noConsole
  | noCommentedCode
  | noVar
  | preferTemplate
deriving DecidableEq

namespace Check

def name : Check → String
  | noConsole => "no-console"
  | noCommentedCode => "no-commented-code"
  | noVar => "no-var"
  | preferTemplate => "prefer-template"

/-- Whether a text in lower case asks for the check. -/
def isAskedBy (text : List Char) : Check → Bool
  | noConsole => Text.occursAny ["console.log", "print statement"] text
  | noCommentedCode => Text.occurs "commented-out code".toList text
  | noVar => Text.occurs "avoid".toList text && Text.occurs "var".toList text
  | preferTemplate => Text.occurs "template literal".toList text

/-- All checks in the order in which they are tried. -/
def all : List Check := [noConsole, noCommentedCode, noVar, preferTemplate]

/-- The checks that a text asks for. Letter case does not count. -/
def askedBy (text : String) : List Check :=
  all.filter (·.isAskedBy (Text.lower text.toList))

/-- The names of the checks; a word of its own says that there are none. -/
def names : List Check → List String
  | [] => ["unrecognized"]
  | checks => checks.map name

end Check

/-- One entry of a rule document. -/
structure Rule where
  text : String
  isPattern : Bool := false
  severity : String := "info"

namespace Rule

/-- The words of rules that describe a pattern to look for. -/
def patternWords : List String :=
  ["check for", "ensure", "verify", "look for", "flag", "must", "should not", "avoid"]

/-- Whether a text describes a pattern to look for. -/
def describesPattern (text : String) : Bool :=
  Text.occursAny patternWords (Text.lower text.toList)

def severityOf (text : String) : String :=
  let s := Text.lower text.toList
  if Text.occursAny ["security", "vulnerability", "must"] s then "critical"
  else if Text.occursAny ["should", "ensure", "verify"] s then "warning"
  else "info"

/-- The text behind a box that can be ticked, and behind the blanks that follow it. -/
def dropCheckbox : List Char → List Char
  | '[' :: c :: ']' :: rest =>
    if c = ' ' || c = 'x' || c = 'X' then Text.trimStart rest else '[' :: c :: ']' :: rest
  | s => s

def ofText (raw : String) : Rule :=
  let text := String.ofList (dropCheckbox (Text.trim raw.toList))
  ⟨text, describesPattern text, severityOf text⟩

def checks (r : Rule) : List Check := Check.askedBy r.text

def toValue (r : Rule) : Value :=
  .table [
    ("text", .text r.text),
    ("is_pattern", .bool r.isPattern),
    ("severity", .text r.severity),
    ("checks", .list ((Check.names r.checks).map .text))]

end Rule
end PatchReview
