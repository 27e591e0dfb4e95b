import PatchReview.Number.Reading
import PatchReview.Value

/-! Files handed over for review, as data: a table with a path, perhaps a text, and perhaps the
changed lines with their numbers. -/
namespace PatchReview

/-- A changed line with its number and its new text. -/
structure ChangedLine where
  number : Int
  content : String

structure ReviewFile where
  path : String
  content : String := ""
  /-- The changed lines; if they are not given, all lines are under review. -/
  changed : Option (List ChangedLine) := none

inductive FileError where
  /-- The file is no table. -/
  | notATable
  | missing (key : String)
  /-- The changed lines cannot be listed, one of them is no table, or its number is of a kind
  that never stands for a number. -/
  | wrongShape
  | notANumber
  | infiniteNumber

namespace ReviewFile

/-- Numbers a list of lines from `n` on. -/
def numberFrom (n : Int) : List (List Char) → List ChangedLine
  | [] => []
  | s :: rest => ⟨n, String.ofList s⟩ :: numberFrom (n + 1) rest

def linesUnderReview (f : ReviewFile) : List ChangedLine :=
  f.changed.getD (numberFrom 1 (Text.splitAt '\n' f.content.toList))

/-- The integer that a value stands for; fractions are dropped. -/
def readNumber : Value → Except FileError Int
  | .int n => .ok n
  | .bool b => .ok (if b then 1 else 0)
  | .float (.finite negative x) =>
    let n : Int := (x.num / x.den : Nat)
    .ok (if negative then -n else n)
  | .float (.infinite _) => .error .infiniteNumber
  | .float .notANumber => .error .notANumber
  | .text s =>
    match Number.readInt? s with
    | some n => .ok n
    | none => .error .notANumber
  | .null | .list _ | .table _ | .moment _ => .error .wrongShape

/-- The value under a key that must be there. -/
def require (fields : List (String × Value)) (key : String) : Except FileError Value :=
  match Value.field? key fields with
  | some v => .ok v
  | none => .error (.missing key)

def readLine : Value → Except FileError ChangedLine
  | .table fields => do
    let number ← readNumber (← require fields "line")
    let content ← require fields "content"
    return ⟨number, content.asText⟩
  | _ => .error .wrongShape

/-- The changed lines as data describe them. Of texts and tables only the empty ones do. -/
def readLines : Value → Except FileError (List ChangedLine)
  | .list items => items.mapM readLine
  | .text "" | .table [] => .ok []
  | _ => .error .wrongShape

/-- The changed lines under either of their keys, if the value is not null. -/
def readChanged (fields : List (String × Value)) : Except FileError (Option (List ChangedLine)) :=
  let given := match Value.field? "changed_lines" fields with
    | some v => some v
    | none => Value.field? "changedLines" fields
  match given with
  | none | some .null => .ok none
  | some v => (readLines v).map some

def ofValue? : Value → Except FileError ReviewFile
  | .table fields => do
    let changed ← readChanged fields
    let path ← require fields "path"
    let content := match Value.field? "content" fields with
      | some v => if v.isEmptyOrZero then "" else v.asText
      | none => ""
    return ⟨path.asText, content, changed⟩
  | _ => .error .notATable

end ReviewFile
end PatchReview
