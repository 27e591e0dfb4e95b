import PatchReview.Detector.Issue
import PatchReview.Pattern.Reader
import PatchReview.Pattern.Search

/-! Patterns that a team looks for in its code: an expression or a keyword, perhaps only in some
languages. -/
namespace PatchReview

/-- A pattern as it is configured. The expression counts if both it and a keyword are given. -/
structure CustomPattern where
  ruleId : String
  message : String
  regex : Option String := none
  keyword : Option String := none
  suggestion : Option String := none
  tags : List String := []
  languages : List String := []

/-- A pattern whose expression has been read. -/
structure ReadyPattern extends CustomPattern where
  node : Option Pattern.Node

namespace CustomPattern

def ready? (p : CustomPattern) : Except Pattern.PatternError ReadyPattern :=
  match p.regex with
  | none => .ok { p with node := none }
  | some text => (Pattern.compile? text).map fun node => { p with node := some node }

end CustomPattern

namespace ReadyPattern

/-- How the pattern is recognised in a text. A keyword may be in any letter case and must not be
empty. -/
def recognise? (p : ReadyPattern) (s : List Char) : Option Evidence :=
  match p.node, p.keyword with
  | some node, _ => if node.found s then some .pattern else none
  | none, some keyword =>
    if !keyword.isEmpty && Text.occurs (Text.lower keyword.toList) (Text.lower s) then
      some .keyword
    else none
  | none, none => none

/-- What the pattern finds on a line of a language that it is for, in a file that does not accept
its findings. -/
def find? (p : ReadyPattern) (line : LineContext) : Option Issue :=
  if (p.languages.isEmpty || p.languages.contains line.language) && !line.file.allows p.ruleId then
    (p.recognise? line.content.toList).map fun evidence =>
      { message := p.message
        suggestion := p.suggestion
        ruleId := p.ruleId
        tags := Text.sortedDistinct p.tags
        evidence := evidence
        source := .custom
        language := if p.languages.isEmpty then none else some line.language }
  else none

end ReadyPattern
end PatchReview
