import PatchReview.Intent.Change
import PatchReview.Intent.File

/-! The context of a review in a few words. -/
namespace PatchReview

/-- The role of the file unless it is production code, the type of the change if it has one, and
the strictness if it is out of the ordinary. -/
def contextSummary (file : FileIntent) (change : Option ChangeIntent) : String :=
  let role := if file.type = .production then [] else [file.type.name ++ " file"]
  let purpose := match change with
    | some c => if c.type = .general then [] else [c.type.name ++ " PR"]
    | none => []
  let strictness := match file.profile.strictness with
    | .lenient => ["lenient rules"]
    | .strict => ["strict rules"]
    | .moderate | .normal => []
  match role ++ purpose ++ strictness with
  | [] => "standard review"
  | parts => Text.join ", " parts

end PatchReview
