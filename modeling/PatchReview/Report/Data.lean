import PatchReview.Json
import PatchReview.Report.Text

/-! Reports for other programs. -/
namespace PatchReview

def version : String := "0.1.0"

namespace Report

structure Origin where
  /-- The time at which the report was written. -/
  time : String
  inputSource : String
  minConfidence : Int

def fileValue (intent : FileIntent) : Value :=
  .table [
    ("type", .text intent.type.name),
    ("purpose", Finding.optionalText (intent.purpose.map (·.name))),
    ("strictness", .text intent.profile.strictness.name)]

/-- What a report says of a kind of findings. -/
def categoryValue (c : Category) : Value :=
  .table [("description", .text c.description), ("color", .text c.color)]

def toValue (r : ReviewResult) (origin : Origin) : Value :=
  .table [
    ("findings", .list ((visible origin.minConfidence r.findings).map fun f =>
      .table (f.toFields ++ [("body", .text f.body)]))),
    ("summary", .text r.summary),
    ("stats", r.stats.toValue),
    ("categories", .table (Category.all.map fun c => (c.name, categoryValue c))),
    ("pr_intent", match r.change with
      | some c => c.toValue
      | none => .null),
    ("files", .table (r.files.map fun (path, intent) => (path, fileValue intent))),
    ("partial", .bool r.isPartial),
    ("meta", .table [
      ("generated_at", .text origin.time),
      ("input_source", .text origin.inputSource),
      ("min_confidence", .int origin.minConfidence),
      ("version", .text version)])]

def json (r : ReviewResult) (origin : Origin) : String := Json.text .unicode (toValue r origin)

end Report
end PatchReview
