import PatchReview.Report.Style
import PatchReview.Review.Run

/-! Reports for people: comments on single findings, listings for terminals, and documents. -/
namespace PatchReview

def Finding.body (f : Finding) : String :=
  f.emoji ++ " **" ++ f.category.name ++ "** " ++
    (ConfidenceLevel.ofScore f.confidence).emoji ++ " (Confidence: " ++ toString f.confidence ++
    "%)\n\n" ++ f.message ++ "\n" ++
    match f.suggestion with
    | none | some "" => ""
    | some s => "\n💡 **Suggestion**: " ++ s

def Category.style : Category → TextStyle
  | bug => .red
  | refactor => .yellow
  | suggestion => .blue

/-- The name of a kind, filled up with blanks to ten characters. -/
def Category.padded (c : Category) : String := c.name ++ "".pushn ' ' (10 - c.name.length)

namespace Report

/-- The findings with at least some confidence. -/
def visible (minConfidence : Int) (findings : List Finding) : List Finding :=
  findings.filter (minConfidence ≤ ·.confidence)

/-- Whether the numbers of all lines that a report names are short enough to be written. -/
def isWritable (minConfidence : Int) (r : ReviewResult) : Bool :=
  (visible minConfidence r.findings).all fun f => Number.isWritable f.line

/-- Whether one of the findings is of the kind or of a more urgent one. -/
def reaches (threshold : Option Category) (findings : List Finding) : Bool :=
  threshold.any fun c => findings.any (·.sortOrder ≤ c.sortOrder)

def findingLines (f : Finding) : List String :=
  (TextStyle.apply [f.category.style, .bold] f.category.padded ++ " " ++ f.path ++ ":" ++
      toString f.line ++ " [" ++ ((f.ruleId.filter (· != "")).getD "-") ++ "] " ++ f.message ++
      " (" ++ toString f.confidence ++ "% " ++ (ConfidenceLevel.ofScore f.confidence).label ++
      ")") ::
    match f.suggestion with
    | none | some "" => []
    | some s => ["           suggestion: " ++ s]

def headline (s : FindingStats) : String :=
  toString s.total ++ " finding(s): " ++ toString s.bugs ++ " bug, " ++ toString s.refactors ++
    " refactor, " ++ toString s.suggestions ++ " suggestion"

/-- The listing of the findings for a terminal. -/
def listing (r : ReviewResult) (minConfidence : Int) : String :=
  let shown := visible minConfidence r.findings
  let hidden := r.findings.length - shown.length
  Text.join "\n" (
    [TextStyle.apply [.bold] (headline r.stats)] ++
    (if r.isPartial then
      [TextStyle.apply [.yellow] "Review timed out; results are partial."] else []) ++
    (if hidden = 0 then []
      else [toString hidden ++ " finding(s) below confidence " ++ toString minConfidence ++
        " hidden"]) ++
    shown.flatMap findingLines)

def findingSection (f : Finding) : String :=
  "### \x60" ++ f.path ++ "\x60 line " ++ toString f.line ++ "\n\n" ++ f.body

/-- The summary with a section for each finding. -/
def document (r : ReviewResult) (minConfidence : Int) : String :=
  Text.join "\n\n" (r.summary :: (visible minConfidence r.findings).map findingSection) ++ "\n"

end Report
end PatchReview
