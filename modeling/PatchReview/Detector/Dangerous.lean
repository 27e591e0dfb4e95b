import PatchReview.Detector.Issue
import PatchReview.Language
import PatchReview.Text.Blank
import PatchReview.Text.WordStart

/-! Calls and assignments that open a program to attack. -/
namespace PatchReview.Dangerous

/-- What follows an opening parenthesis and the blanks around it, if the text starts so. -/
def afterOpening (s : List Char) : Option (List Char) :=
  match Text.trimStart s with
  | '(' :: rest => some (Text.trimStart rest)
  | _ => none

def callsEval (s : List Char) : Bool :=
  Text.atWordStart (fun rest => ((Text.after? "eval" rest).bind afterOpening).isSome) false s

/-- Whether the property is followed by an equals sign. -/
def assigns (property : String) (s : List Char) : Bool :=
  Text.somewhere (fun rest =>
    match (Text.after? property rest).map Text.trimStart with
    | some ('=' :: _) => true
    | _ => false) s

/-- Whether markup is put into a page while no plain text is. -/
def assignsMarkup (s : List Char) : Bool := assigns ".innerHTML" s && !assigns ".textContent" s

/-- Whether the text starts with a string literal that is formatted: one marked as a template, or
one with a slot behind it in its line. -/
def startsFormatted : List Char → Bool
  | 'f' :: q :: _ => Text.isQuote q
  | q :: rest => Text.isQuote q && Text.occurs "%s".toList (rest.takeWhile (· != '\n'))
  | [] => false

/-- Whether a query is run whose text is formatted. -/
def runsFormattedQuery (s : List Char) : Bool :=
  Text.somewhere (fun rest =>
    ((Text.after? "execute" rest).bind afterOpening).any startsFormatted) s

/-- A danger that threatens programs of some languages. -/
structure Threat where
  concerns : String → Bool
  holds : List Char → Bool
  issue : Issue

def threats : List Threat := [
    { concerns := Language.isScriptFamily
      holds := callsEval
      issue :=
        { message := "Use of eval() detected - potential security risk"
          suggestion := "Avoid eval() and use safer alternatives"
          ruleId := "dangerous-eval"
          tags := ["security", "vulnerability"]
          evidence := some .pattern } },
    { concerns := Language.isScriptFamily
      holds := assignsMarkup
      issue :=
        { message := "Use of innerHTML detected - potential XSS vulnerability"
          suggestion := "Consider using textContent or sanitize the HTML first"
          ruleId := "xss-vulnerability"
          tags := ["security", "vulnerability", "xss"]
          evidence := some .pattern } },
    { concerns := (· == "python")
      holds := runsFormattedQuery
      issue :=
        { message := "Potential SQL injection vulnerability"
          suggestion := "Use parameterized queries instead of string formatting"
          ruleId := "sql-injection"
          tags := ["injection", "security", "vulnerability"]
          evidence := some .pattern } }]

def detect (line : LineContext) : List Issue :=
  (threats.filter fun t => t.concerns line.language && t.holds line.content.toList).map (·.issue)

end PatchReview.Dangerous
