import PatchReview.Text.Basic
import PatchReview.Text.Case

/-! The purpose of a function, told from its name. -/
namespace PatchReview

/-- The purposes that names of functions tell. -/
inductive FunctionPurpose where
  | general
  | debug
  | experimental
  | validation
  | sanitization
  | testHelper
deriving DecidableEq

def FunctionPurpose.name : FunctionPurpose → String
  | general => "general"
  | debug => "debug"
  | experimental => "experimental"
  | validation => "validation"
  | sanitization => "sanitization"
  | testHelper => "test-helper"

/-- The purpose of one function and what a reviewer may expect of it. -/
structure FunctionIntent where
  name : String
  purpose : FunctionPurpose := .general
  expectValidation : Bool := false
  expectErrorHandling : Bool := false
  allowLowerStandards : Bool := false

namespace FunctionIntent

/-- A test for names in lower case, and what it tells when it succeeds. -/
structure Clue where
  holds : List Char → Bool
  apply : FunctionIntent → FunctionIntent

/-- The clues in the order of their weight: a later one overrides what an earlier one says. -/
def clues : List Clue := [
    ⟨Text.startsWithAny ["debug", "temp", "tmp"],
      fun i => { i with purpose := .debug, allowLowerStandards := true }⟩,
    ⟨fun s => "experiment".toList.isPrefixOf s || Text.occurs "test".toList s,
      fun i => { i with purpose := .experimental, allowLowerStandards := true }⟩,
    ⟨Text.startsWithAny ["validate", "check", "verify"],
      fun i =>
        { i with purpose := .validation, expectValidation := true, expectErrorHandling := true }⟩,
    ⟨Text.startsWithAny ["sanitize", "clean", "escape"],
      fun i => { i with purpose := .sanitization, expectValidation := true }⟩,
    ⟨Text.startsWithAny ["mock", "stub", "fake"],
      fun i => { i with purpose := .testHelper, allowLowerStandards := true }⟩]

/-- The purpose of the function with a name. Letter case does not count. -/
def classify (name : String) : FunctionIntent :=
  (clues.filter (·.holds (Text.lower name.toList))).foldl (fun i clue => clue.apply i) { name }

end FunctionIntent
end PatchReview
