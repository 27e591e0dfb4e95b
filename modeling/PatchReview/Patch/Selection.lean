import PatchReview.Glob
import PatchReview.Patch.Basic

/-! The patches that are reviewed. -/
namespace PatchReview

/-- The paths that a review takes in: those that match a pattern of `included`, or all if it is empty,
and none of `excluded`. -/
structure PathScope where
  included : List String := []
  excluded : List String := []

namespace PathScope

def admits (scope : PathScope) (path : String) : Bool :=
  (scope.included.isEmpty || scope.included.any (Glob.isMatch · path)) &&
    !scope.excluded.any (Glob.isMatch · path)

/-- The patches that leave a text file behind whose path is in scope. -/
def select (scope : PathScope) (patches : List FilePatch) : List FilePatch :=
  patches.filter fun p => !p.isDeleted && !p.isBinary && scope.admits p.path

end PathScope
end PatchReview
