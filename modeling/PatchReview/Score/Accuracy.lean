/-! How often reviewers agreed with the findings of each rule. -/
namespace PatchReview

/-- The verdicts on the findings of one rule. -/
structure Tally where
  correct : Int := 0
  incorrect : Int := 0
deriving DecidableEq

namespace Tally

/-- The number of verdicts. -/
def total (t : Tally) : Int := t.correct + t.incorrect

def add (t : Tally) (correct : Bool) : Tally :=
  if correct then { t with correct := t.correct + 1 } else { t with incorrect := t.incorrect + 1 }

end Tally

/-- The verdicts on the findings of each rule, in the order in which rules got their first. No
rule has two entries. -/
structure AccuracyStore where
  entries : List (String × Tally) := []

namespace AccuracyStore

/-- The verdicts on a rule, if there are any. -/
def get? (s : AccuracyStore) (ruleId : String) : Option Tally := s.entries.lookup ruleId

/-- Changes the tally of a rule; a rule without verdicts gets its tally behind the others. -/
def updateEntry (ruleId : String) (f : Tally → Tally) :
    List (String × Tally) → List (String × Tally)
  | [] => [(ruleId, f {})]
  | (r, t) :: rest => if r = ruleId then (r, f t) :: rest else (r, t) :: updateEntry ruleId f rest

/-- Puts a tally in place of that of a rule. -/
def put (s : AccuracyStore) (ruleId : String) (t : Tally) : AccuracyStore :=
  ⟨updateEntry ruleId (fun _ => t) s.entries⟩

def record (s : AccuracyStore) (ruleId : String) (correct : Bool) : AccuracyStore :=
  ⟨updateEntry ruleId (·.add correct) s.entries⟩

def clear (_ : AccuracyStore) : AccuracyStore := {}

end AccuracyStore
end PatchReview
