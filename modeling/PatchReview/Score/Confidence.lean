import PatchReview.Detector.Issue
import PatchReview.Number.Rounding
import PatchReview.Score.Accuracy
import PatchReview.Text.Basic

/-! How far an issue is to be trusted: the sum of points for the evidence, for the place where it
was found, for the kind of its rule, and for the verdicts on earlier findings of the rule. -/
namespace PatchReview

/-- What the points for the place depend on. -/
structure ScoreContext where
  path : String
  language : String
  isTest : Bool := false
  isConfig : Bool := false
  isMigration : Bool := false

/-- The place of a file in a language. -/
def ScoreContext.ofFile (file : FileIntent) (language : String) : ScoreContext where
  path := file.path
  language := language
  isTest := file.type = .test
  isConfig := file.type = .config
  isMigration := file.type = .migration

namespace Confidence

/-- The rules whose findings are rarely wrong. -/
def highAccuracyRules : List String :=
  ["sql-injection", "xss-vulnerability", "hardcoded-secrets", "null-reference",
    "undefined-variable"]

/-- The rules whose findings are wrong at times. -/
def mediumAccuracyRules : List String := ["function-length", "complexity", "no-console", "no-var"]

def debugPrintRules : List String := ["no-console", "no-print"]

/-- Points for the evidence, at most 30. -/
def evidencePoints (issue : Issue) : Int :=
  if issue.tags.contains "security" then 30
  else match issue.evidence with
    | some .exact | some .structural => 25
    | some .pattern => 20
    | some .keyword => 10
    | none => 15

/-- Points for the place, at most 30. -/
def contextPoints (issue : Issue) (context : ScoreContext) : Int :=
  if context.isTest && issue.tags.contains "production-only" then 0
  else if (context.isTest || Text.occurs "debug".toList context.path.toList) &&
      issue.ruleId.any debugPrintRules.contains then 5
  else if context.isConfig && issue.ruleId == some "magic-numbers" then 0
  else if context.isMigration && issue.tags.contains "raw-sql" then 5
  else match issue.language with
    | none => 20
    | some l => if l == context.language then 30 else 10

/-- Points for the kind of the rule, at most 20. -/
def rulePoints (issue : Issue) : Int :=
  if issue.source = .custom then 20
  else if issue.language.any (· != "") then 15
  else if issue.tags.contains "security" then 18
  else 10

def fixedPoints (ruleId : String) : Int :=
  if highAccuracyRules.contains ruleId then 18
  else if mediumAccuracyRules.contains ruleId then 14
  else 10

/-- The tally that counts for an issue: that of its rule, if there are verdicts on it. -/
def tally? (history : AccuracyStore) (ruleId : Option String) : Option Tally :=
  (ruleId.filter (· != "")).bind fun r => (history.get? r).filter (0 < ·.total)

/-- Points for earlier findings of the rule: the share of right ones among them, in twentieths. -/
def historyPoints (history : AccuracyStore) (ruleId : Option String) : Int :=
  match tally? history ruleId with
  | some t => floorQuotient (20 * t.correct) t.total.toNat
  | none => fixedPoints (ruleId.getD "")

/-- Whether the share of right findings is too large a number to be computed. -/
def historyIsHuge (history : AccuracyStore) (ruleId : Option String) : Bool :=
  (tally? history ruleId).any fun t => quotientIsHuge (20 * t.correct) t.total.toNat

/-- The confidence in an issue, from 0 to 100. -/
def score (history : AccuracyStore) (issue : Issue) (context : ScoreContext) : Int :=
  max 0 (min 100 (evidencePoints issue + contextPoints issue context + rulePoints issue +
    historyPoints history issue.ruleId))

end Confidence

inductive ConfidenceLevel where
  | veryHigh
  | high
  | medium
  | low
deriving DecidableEq

namespace ConfidenceLevel

def ofScore (score : Int) : ConfidenceLevel :=
  if 90 ≤ score then veryHigh
  else if 75 ≤ score then high
  else if 60 ≤ score then medium
  else low

def emoji : ConfidenceLevel → String
  | veryHigh => "🎯"
  | high => "✅"
  | medium => "⚠️"
  | low => "❔"

def label : ConfidenceLevel → String
  | veryHigh => "Very High"
  | high => "High"
  | medium => "Medium"
  | low => "Low"

end ConfidenceLevel
end PatchReview
