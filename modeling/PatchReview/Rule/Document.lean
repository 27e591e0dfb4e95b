import PatchReview.Rule.Set
import PatchReview.Text.Lines

/-! Rule documents. `##` headings open the bucket of a category, `###` headings that of a
language, which the next `##` heading closes; list items are rules. The other lines under the
heading of the review tone make up the closing line of summaries. Fenced code is passed over. -/
namespace PatchReview

/-- What the reader of a rule document knows after some lines. -/
structure RuleReader where
  categories : Buckets := []
  languages : Buckets := []
  global : List Rule := []
  tone : List String := []
  category : Option String := none
  language : Option String := none
  inCode : Bool := false

namespace RuleReader

def toneHeading : String := "review tone"

/-- The text of a heading: without blanks around it, in lower case. -/
def headingText (s : List Char) : String := String.ofList (Text.lower (Text.trim s))

def file (r : RuleReader) (rule : Rule) : RuleReader :=
  match r.language, r.category with
  | some name, _ => { r with languages := r.languages.extend name [rule] }
  | none, some name => { r with categories := r.categories.extend name [rule] }
  | none, none => { r with global := r.global ++ [rule] }

def readLine (r : RuleReader) (line : List Char) : RuleReader :=
  match line with
  | '#' :: '#' :: ' ' :: rest =>
    let name := headingText rest
    { r with
      categories := r.categories.extend name []
      category := some name
      language := none }
  | '#' :: '#' :: '#' :: ' ' :: rest =>
    let name := headingText rest
    { r with languages := r.languages.extend name [], language := some name }
  | '-' :: ' ' :: rest => r.file (Rule.ofText (String.ofList rest))
  | '#' :: _ => r
  | line =>
    if r.category = some toneHeading then { r with tone := r.tone ++ [String.ofList line] } else r

/-- Reads one line. Blank lines and fences say nothing of rules. -/
def step (r : RuleReader) (raw : List Char) : RuleReader :=
  match Text.trim raw with
  | [] => r
  | '\x60' :: '\x60' :: '\x60' :: _ => { r with inCode := !r.inCode }
  | line => if r.inCode then r else r.readLine line

def ruleSet (r : RuleReader) (source : Option String) : RuleSet :=
  ⟨r.categories, r.languages, r.global, Text.join " " r.tone, source⟩

end RuleReader

namespace RuleSet

def ofDocument (text : String) (source : Option String) : RuleSet :=
  ((Text.lines text.toList).foldl RuleReader.step {}).ruleSet source

/-- The document that applies where no other is given. -/
def defaultDocument : String :=
  Text.join "\n" [
    "# Code Review Rules",
    "",
    "## Security",
    "- Check for hardcoded secrets, API keys and passwords",
    "- Verify user input is validated before use",
    "- Flag SQL built from string formatting",
    "",
    "## Code Quality",
    "- Avoid leaving console.log statements in production code",
    "- Flag commented-out code blocks",
    "- Functions should stay small and focused",
    "",
    "## Error Handling",
    "- Ensure errors are handled or propagated, never swallowed",
    "",
    "## Language Specific",
    "",
    "### JavaScript/TypeScript",
    "- Avoid var declarations; use const or let",
    "- Prefer template literals over string concatenation",
    "",
    "### Python",
    "- Follow PEP 8 naming conventions",
    "",
    "## Review Tone",
    "Be constructive and specific. Explain why a change is needed.",
    ""]

/-- The rules that apply where no others are given. -/
def default : RuleSet := ofDocument defaultDocument (some "builtin")

end RuleSet
end PatchReview
