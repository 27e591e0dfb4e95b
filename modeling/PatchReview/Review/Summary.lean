import PatchReview.Finding.Basic
import PatchReview.Number.Rounding

/-! The summary of a review. -/
namespace PatchReview

def totalConfidence (findings : List Finding) : Int := findings.foldr (·.confidence + ·) 0

/-- The mean confidence, halves rounded up; 0 if there are no findings. -/
def averageConfidence (findings : List Finding) : Int :=
  if findings.isEmpty then 0 else roundQuotientHalfUp (totalConfidence findings) findings.length

/-- Whether the mean confidence is too large a number to be computed. -/
def averageIsHuge (findings : List Finding) : Bool :=
  !findings.isEmpty && quotientIsHuge (totalConfidence findings) findings.length

namespace Summary

/-- A line that is left out where there is nothing to count. -/
def countLine (n : Nat) (before after : String) : String :=
  if n = 0 then "" else before ++ toString n ++ after ++ "\n"

def defaultTone : String := "Please review the comments below."

def body (findings : List Finding) (stats : FindingStats) : String :=
  if findings.isEmpty then "✅ No issues found. Code looks good!\n"
  else
    "Found " ++ toString stats.total ++ " issue(s):\n\n" ++
      countLine stats.bugs "🔴 **" " Bugs** - Must fix before merge" ++
      countLine stats.refactors "🟡 **" " Refactors** - Should fix for quality" ++
      countLine stats.suggestions "🔵 **" " Suggestions** - Nice to have" ++
      "\n" ++
      countLine stats.critical "⚠️ " " critical issue(s)" ++
      "\n📊 Average confidence: " ++ toString (averageConfidence findings) ++ "%\n"

/-- The summary: a heading, the numbers and a closing line. -/
def text (findings : List Finding) (stats : FindingStats) (tone : String) : String :=
  "## Code Review Summary\n\n" ++ body findings stats ++ "\n" ++
    if tone.isEmpty then defaultTone else tone

end Summary
end PatchReview
