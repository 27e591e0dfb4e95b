/-! How strictly a file or a change is reviewed. -/
namespace PatchReview

/-- How strictly a file or a change is reviewed. -/
inductive Strictness where
  | strict
  | moderate
  | normal
  | lenient
deriving DecidableEq

namespace Strictness

def name : Strictness → String
  | strict => "strict"
  | moderate => "moderate"
  | normal => "normal"
  | lenient => "lenient"

def ofName? (s : String) : Option Strictness :=
  [strict, moderate, normal, lenient].find? (·.name == s)

end Strictness
end PatchReview
