import PatchReview.Value

/-! TOML tables while a document is read. A table knows whether it may still be opened by a header
or extended by a dotted key; values in one piece are closed for good. -/
namespace PatchReview.Toml

inductive TomlError where
  | malformed
  /-- A decimal integer with more digits than are read. -/
  | integerTooLong (digits : Nat)

inductive Node where
  /-- A value in one piece. -/
  | value (v : Value)
  /-- A table with the number of the section from which on it is closed, if it ever is. -/
  | table (closedFrom : Option Nat) (fields : List (String × Node))
  /-- A list of tables: the last one, and those before it in reverse. -/
  | tables (last : List (String × Node)) (earlier : List (List (String × Node)))

/-- The fields of a table in the order of first mention. -/
abbrev Fields := List (String × Node)

mutual
def Node.toValue : Node → Value
  | .value v => v
  | .table _ fields => .table (fieldValues fields)
  | .tables last earlier => .list ((.table (fieldValues last) :: tableValues earlier).reverse)

def fieldValues : List (String × Node) → List (String × Value)
  | [] => []
  | (k, n) :: rest => (k, n.toValue) :: fieldValues rest

def tableValues : List (List (String × Node)) → List Value
  | [] => []
  | fields :: rest => .table (fieldValues fields) :: tableValues rest
end

namespace Fields

def put (key : String) (n : Node) : Fields → Fields
  | [] => [(key, n)]
  | (k, m) :: rest => if k = key then (k, n) :: rest else (k, m) :: put key n rest

/-- A way into what stands under a key: the fields there, and how changed ones are put back. -/
abbrev Entry := Except TomlError (Fields × (Fields → Node))

/-- The way of a header: into any table and into the last table of a list. A missing table is
made and stays open. -/
def enterByHeader : Option Node → Entry
  | none => .ok ([], .table none)
  | some (.table closedFrom fields) => .ok (fields, .table closedFrom)
  | some (.tables last earlier) => .ok (last, fun fields => .tables fields earlier)
  | some (.value _) => .error .malformed

/-- The way of a dotted key in a section: into tables that are not closed yet, which are closed
when the section ends. -/
def enterByKey (n : Nat) : Option Node → Entry
  | none => .ok ([], .table (some (n + 1)))
  | some (.table closedFrom fields) =>
    if closedFrom.any (· ≤ n) then .error .malformed else .ok (fields, .table (some (n + 1)))
  | some (.tables ..) | some (.value _) => .error .malformed

/-- Changes the fields at the end of a path. -/
def updateAt (enter : Option Node → Entry) (change : Fields → Except TomlError Fields) :
    List String → Fields → Except TomlError Fields
  | [], fields => change fields
  | key :: path, fields => do
    let (inner, putBack) ← enter (fields.lookup key)
    return put key (putBack (← updateAt enter change path inner)) fields

/-- Gives a key a value; it must not have one. -/
def assign (key : String) (v : Value) (fields : Fields) : Except TomlError Fields :=
  if (fields.lookup key).isSome then .error .malformed else .ok (put key (.value v) fields)

/-- Gives a dotted key a value in section `n`. -/
def assignPath (n : Nat) (key : List String) (v : Value) (fields : Fields) :
    Except TomlError Fields :=
  updateAt (enterByKey n) (assign (key.getLastD "") v) key.dropLast fields

/-- Opens the table of a header in section `n`. No header opens a table twice. -/
def openTable (n : Nat) (key : String) (fields : Fields) : Except TomlError Fields :=
  match fields.lookup key with
  | none => .ok (put key (.table (some n) []) fields)
  | some (.table closedFrom inner) =>
    if closedFrom.any (· ≤ n) then .error .malformed
    else .ok (put key (.table (some n) inner) fields)
  | some _ => .error .malformed

/-- Opens one table more in a list of tables. -/
def openListed (key : String) (fields : Fields) : Except TomlError Fields :=
  match fields.lookup key with
  | none => .ok (put key (.tables [] []) fields)
  | some (.tables last earlier) => .ok (put key (.tables [] (last :: earlier)) fields)
  | some _ => .error .malformed

end Fields

/-- A document up to some statement: its tables, the path of the open section, and the number of
sections so far. -/
structure Document where
  fields : Fields := []
  path : List String := []
  sections : Nat := 0

namespace Document

def assign (d : Document) (key : List String) (v : Value) : Except TomlError Document := do
  let fields ← Fields.updateAt Fields.enterByHeader (Fields.assignPath d.sections key v) d.path
    d.fields
  return { d with fields }

/-- Starts the section of a header; `listed` if it is for one table more in a list. -/
def openSection (d : Document) (listed : Bool) (key : List String) :
    Except TomlError Document := do
  let n := d.sections + 1
  let name := key.getLastD ""
  let fields ← Fields.updateAt Fields.enterByHeader
    (if listed then Fields.openListed name else Fields.openTable n name) key.dropLast d.fields
  return ⟨fields, key, n⟩

end Document
end PatchReview.Toml
