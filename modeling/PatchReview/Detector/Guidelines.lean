import PatchReview.Detector.Issue
import PatchReview.Language
import PatchReview.Rule.Set
import PatchReview.Text.WordStart

/-! The checks that rules ask for. Rules of categories reach the checks for forgotten output and
for disabled code, rules of languages those for declarations and for texts built from parts. -/
namespace PatchReview.Guidelines

/-- Whether a line prints to the console, and how the report of it reads. -/
def findConsole? (line : LineContext) : Option Issue :=
  let s := line.content.toList
  if Language.isScriptFamily line.language && Text.occurs "console.log(".toList s then some
    { message := "console.log() statement found in production code"
      suggestion := "Remove console.log() statements before merging"
      ruleId := "no-console"
      tags := ["production-only", "style"]
      evidence := some .pattern }
  else if line.language == "python" && Text.atWordStart ("print(".toList.isPrefixOf) false s then
    some
      { message := "print() statement found in production code"
        suggestion := "Remove print() statements before merging or use proper logging"
        ruleId := "no-print"
        tags := ["production-only", "style"]
        evidence := some .pattern }
  else none

/-- Whether the text starts with a name that is assigned or called. Names start with a small
letter or an underscore. -/
def startsStatement : List Char → Bool
  | [] => false
  | c :: rest =>
    (c.isLower || c == '_') &&
      match Text.trimStart (rest.dropWhile Text.isWord) with
      | d :: _ => d == '=' || d == '('
      | [] => false

/-- Whether a line is a comment that holds a statement, and how the report of it reads. -/
def findCommentedCode? (line : LineContext) : Option Issue :=
  let mark := if line.language == "python" then "#" else "//"
  if ((Text.after? mark (Text.trimStart line.content.toList)).map Text.trimStart).any
      startsStatement then some
    { message := "Commented-out code detected"
      suggestion := "Remove unused commented code"
      ruleId := "no-commented-code"
      tags := ["maintainability"]
      evidence := some .pattern }
  else none

/-- Whether the text starts with `var` and a name. -/
def startsVar (s : List Char) : Bool :=
  match Text.after? "var" s with
  | some (c :: rest) => Text.isBlank c && (Text.trimStart rest).head?.any Text.isWord
  | _ => false

/-- Whether a line declares a variable in the old manner, and how the report of it reads. -/
def findVar? (line : LineContext) : Option Issue :=
  if Language.isScriptFamily line.language &&
      Text.atWordStart startsVar false line.content.toList then some
    { message := "Use of \"var\" detected"
      suggestion := "Use const or let instead of var"
      ruleId := "no-var"
      tags := ["modern-syntax", "style"]
      evidence := some .pattern }
  else none

/-- Whether the text starts with a quotation mark, a plus sign before the next quotation mark,
and that mark. -/
def startsJoined : List Char → Bool
  | [] => false
  | q :: rest =>
    Text.isQuote q && (rest.takeWhile (!Text.isQuote ·)).contains '+' &&
      !(rest.dropWhile (!Text.isQuote ·)).isEmpty

/-- Whether a line joins texts by plus signs, and how the report of it reads. -/
def findConcatenation? (line : LineContext) : Option Issue :=
  if Language.isScriptFamily line.language &&
      Text.somewhere startsJoined line.content.toList then some
    { message := "String concatenation with + detected"
      suggestion := "Consider using template literals instead"
      ruleId := "prefer-template-literal"
      tags := ["modern-syntax", "style"]
      evidence := some .pattern }
  else none

def find? : Check → LineContext → Option Issue
  | .noConsole => findConsole?
  | .noCommentedCode => findCommentedCode?
  | .noVar => findVar?
  | .preferTemplate => findConcatenation?

/-- The finding that a file has to accept for the check to be pointless in it. -/
def exception? : Check → Option String
  | .noConsole => some "console.log"
  | .noCommentedCode | .noVar | .preferTemplate => none

/-- The checks that rules of categories reach. -/
def isForCategories : Check → Bool
  | .noConsole | .noCommentedCode => true
  | .noVar | .preferTemplate => false

/-- What a rule finds on a line with those of its checks that it reaches: the first finding. A
rule with a check that the file makes pointless finds nothing at all. -/
def applyRule (reaches : Check → Bool) (line : LineContext) (rule : Rule) : Option Issue :=
  let checks := rule.checks.filter reaches
  if checks.any fun c => (exception? c).any line.file.allows then none
  else checks.findSome? (find? · line)

/-- What the rules of a set find on a line: those of categories that describe patterns, and those
of the language. -/
def detect (rules : RuleSet) (line : LineContext) : List Issue :=
  let patterns := (rules.categories.entries.map (·.2)).filter (·.isPattern)
  ((patterns.filterMap (applyRule isForCategories line)).map
      fun i => { i with source := .custom }) ++
    ((rules.rulesFor line.language).filterMap (applyRule (!isForCategories ·) line)).map
      fun i => { i with source := .builtin, language := some line.language }

end PatchReview.Guidelines
