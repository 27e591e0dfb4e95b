import PatchReview.Number.Shortest

/-! How many files are reviewed at once, and how long a review may take. -/
namespace PatchReview

inductive Seconds where
  | whole (n : Int)
  | fractional (x : Binary64)

namespace Seconds

def text : Seconds → String
  | whole n => toString n
  | fractional x => plainLayout.text x

def isNonPositive : Seconds → Bool
  | whole n => n ≤ 0
  | fractional x => x.isNonPositive

/-- The longest time that a wait can be told to last, in millionths of a second. -/
def longestWait : Nat := 9223372036854775

/-- Whether no wait can be told to last so long. Not true of a value that is no number. -/
def isTooLong : Seconds → Bool
  | whole n => longestWait < n * 1000000
  | fractional (.finite negative x) => !negative && longestWait * x.den < x.num * 1000000
  | fractional (.infinite negative) => !negative
  | fractional .notANumber => false

end Seconds

structure ReviewLimits where
  workers : Int := 1
  timeout : Option Seconds := none

/-- Whether the time for a review is longer than any wait for it can be. -/
def ReviewLimits.timeoutIsTooLong (l : ReviewLimits) : Bool := l.timeout.any (·.isTooLong)

inductive LimitError where
  | tooFewWorkers (n : Int)
  | timeoutNotPositive (t : Seconds)

def LimitError.message : LimitError → String
  | tooFewWorkers n => "workers must be >= 1, got " ++ toString n
  | timeoutNotPositive t => "timeout must be > 0, got " ++ t.text

/-- Refuses limits under which no review could run. -/
def ReviewLimits.check (l : ReviewLimits) : Except LimitError Unit :=
  if l.workers < 1 then .error (.tooFewWorkers l.workers)
  else match l.timeout with
    | none => .ok ()
    | some t => if t.isNonPositive then .error (.timeoutNotPositive t) else .ok ()

end PatchReview
