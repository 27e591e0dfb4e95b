import PatchReview.Intent.Change

/-! Pull requests: their title and labels tell the purpose of a change. -/
namespace PatchReview

/-- What is known of a pull request. The labels may have any form. -/
structure PullRequest where
  title : String := ""
  labels : Value := .null

inductive PullRequestError where
  /-- The labels are of a kind that cannot be listed. -/
  | labelsNotListed
  | unknownType (e : ChangeIntent.UnknownTypeWord)

namespace PullRequest

/-- The names of labels in a value that can be listed: the items of a list, the keys of a table or
the characters of a text. -/
def readLabels? (v : Value) : Option (List String) :=
  if v.isEmptyOrZero then some []
  else match v with
    | .list items => some (items.filterMap ChangeIntent.labelName?)
    | .table fields => some (fields.map (·.1))
    | .text s => some (s.toList.map fun c => String.ofList [c])
    | _ => none

/-- The pull request that a table describes. What is not a text is passed over. -/
def ofFields (fields : List (String × Value)) : Except PullRequestError PullRequest :=
  match readLabels? ((Value.field? "labels" fields).getD .null) with
  | none => .error .labelsNotListed
  | some labels =>
    let title := match Value.field? "title" fields with
      | some (.text s) => s
      | _ => ""
    .ok ⟨title, .list (labels.map .text)⟩

def intent (p : PullRequest) : Except PullRequestError ChangeIntent :=
  (ChangeIntent.classify p.title p.labels).mapError .unknownType

/-- The purpose of the change that data describe: null describes none, and what is no table
describes one without a title. -/
def intentOfValue : Value → Except PullRequestError (Option ChangeIntent)
  | .null => .ok none
  | .table fields => do
    let p ← ofFields fields
    return some (← p.intent)
  | _ => (intent {}).map some

end PullRequest
end PatchReview
