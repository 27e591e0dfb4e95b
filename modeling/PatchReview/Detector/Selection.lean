import PatchReview.Detector.Custom
import PatchReview.Detector.Dangerous
import PatchReview.Detector.Guidelines
import PatchReview.Detector.Secrets

/-! The detectors, and the choice of those that take part in a review. -/
namespace PatchReview

inductive DetectorKind where
  | secrets
  | dangerous
  | guidelines
  | custom
deriving DecidableEq

namespace DetectorKind

/-- All kinds in the order in which they look at a line. -/
def all : List DetectorKind := [secrets, dangerous, guidelines, custom]

def id : DetectorKind → String
  | secrets => "hardcoded_secrets"
  | dangerous => "dangerous_patterns"
  | guidelines => "guidelines"
  | custom => "custom_patterns"

def title : DetectorKind → String
  | secrets => "SecretsDetector"
  | dangerous => "DangerousPatternsDetector"
  | guidelines => "GuidelinesDetector"
  | custom => "CustomPatternsDetector"

def description : DetectorKind → String
  | secrets => "Flags credentials assigned as string literals and PEM private keys."
  | dangerous => "Finds dynamic evaluation, raw HTML injection and formatted SQL."
  | guidelines => "Applies structural checks selected by the rule set's guideline text."
  | custom => "Apply \x60\x60[[patterns]]\x60\x60 entries from the repository config."

/-- The languages of a kind that is for certain languages only. -/
def languages : DetectorKind → List String
  | dangerous => ["javascript", "typescript", "python"]
  | secrets | guidelines | custom => []

end DetectorKind

inductive Detector where
  | secrets
  | dangerous
  | guidelines (rules : RuleSet)
  | custom (patterns : List ReadyPattern)

namespace Detector

def kind : Detector → DetectorKind
  | secrets => .secrets
  | dangerous => .dangerous
  | guidelines _ => .guidelines
  | custom _ => .custom

def detect : Detector → LineContext → List Issue
  | secrets => Secrets.detect
  | dangerous => Dangerous.detect
  | guidelines rules => Guidelines.detect rules
  | custom patterns => fun line => patterns.filterMap (·.find? line)

end Detector

/-- The choice of detectors: all if none are named to be used, less those that are named to be
left out. -/
structure DetectorChoice where
  enabled : Option (List String) := none
  disabled : List String := []

inductive DetectorError where
  /-- Names that belong to no detector, in ascending order. -/
  | unknownIds (ids : List String)
  | badPattern (e : Pattern.PatternError)

namespace DetectorChoice

/-- The names in the choice that belong to no detector. -/
def unknownIds (c : DetectorChoice) : List String :=
  Text.sortedDistinct ((c.enabled.getD [] ++ c.disabled).filter fun id =>
    !DetectorKind.all.any (·.id == id))

def selects (c : DetectorChoice) (kind : DetectorKind) : Bool :=
  c.enabled.all (·.contains kind.id) && !c.disabled.contains kind.id

def setUp (rules : RuleSet) (patterns : List CustomPattern) :
    DetectorKind → Except Pattern.PatternError Detector
  | .secrets => .ok .secrets
  | .dangerous => .ok .dangerous
  | .guidelines => .ok (.guidelines rules)
  | .custom => (patterns.mapM CustomPattern.ready?).map .custom

def detectors (c : DetectorChoice) (rules : RuleSet) (patterns : List CustomPattern) :
    Except DetectorError (List Detector) :=
  match c.unknownIds with
  | [] => ((DetectorKind.all.filter c.selects).mapM (setUp rules patterns)).mapError .badPattern
  | ids => .error (.unknownIds ids)

end DetectorChoice

def DetectorError.unknownMessage (ids : List String) : String :=
  "Unknown detector ids: " ++ Text.join ", " ids

end PatchReview
