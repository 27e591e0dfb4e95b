import PatchReview.Number.Reading
import PatchReview.Number.Shortest
import PatchReview.Text.Basic
import PatchReview.Text.Quoted

/-! Data values, as configuration files and other programs hand them over. -/
namespace PatchReview

/-- A data value. A table keeps the order of its keys, which differ from each other. A moment is
a date, a time of day or both. -/
inductive Value where
  | null
  | bool (b : Bool)
  | int (n : Int)
  | float (x : Binary64)
  | text (s : String)
  | list (items : List Value)
  | table (fields : List (String × Value))
  | moment (written : String)
deriving Inhabited

namespace Value

/-- The value under a key of a table. -/
def field? (key : String) (fields : List (String × Value)) : Option Value := fields.lookup key

/-- Values that count as absent: null, false, zero, and whatever is empty. -/
def isEmptyOrZero : Value → Bool
  | null => true
  | bool b => !b
  | int n => n == 0
  | float x => x.isZero
  | text s => s.isEmpty
  | list items => items.isEmpty
  | table fields => fields.isEmpty
  | moment _ => false

mutual
/-- The value as a listing shows it; texts are in quotation marks. -/
def listing : Value → String
  | null => "None"
  | bool b => if b then "True" else "False"
  | int n => toString n
  | float x => plainLayout.text x
  | text s => Text.quoted s
  | list items => "[" ++ Text.join ", " (listings items) ++ "]"
  | table fields => "\x7b" ++ Text.join ", " (fieldListings fields) ++ "\x7d"
  | moment written => written

def listings : List Value → List String
  | [] => []
  | v :: rest => listing v :: listings rest

/-- The listings of the fields, each with its key. -/
def fieldListings : List (String × Value) → List String
  | [] => []
  | (k, v) :: rest => (Text.quoted k ++ ": " ++ listing v) :: fieldListings rest
end

mutual
/-- Whether no integer in the value is longer than those that are read. -/
def hasShortIntegers : Value → Bool
  | int n => n.natAbs < Nat.pow 10 Number.maxDigits
  | list items => haveShortIntegers items
  | table fields => fieldsHaveShortIntegers fields
  | null | bool _ | float _ | text _ | moment _ => true

def haveShortIntegers : List Value → Bool
  | [] => true
  | v :: rest => hasShortIntegers v && haveShortIntegers rest

def fieldsHaveShortIntegers : List (String × Value) → Bool
  | [] => true
  | (_, v) :: rest => hasShortIntegers v && fieldsHaveShortIntegers rest
end

/-- The value as text: a text is itself, anything else its listing. -/
def asText : Value → String
  | text s => s
  | v => v.listing

end Value
end PatchReview
