import PatchReview.Toml.Scalar
import PatchReview.Toml.Text

/-! TOML documents. -/
namespace PatchReview.Toml

mutual
/-- A value of any kind. Values inside values take fuel. -/
def readValue : Nat → List Char → Except TomlError (Value × List Char)
  | 0, _ => .error .malformed
  | fuel + 1, s =>
    match readString? s with
    | some r => r.map fun (text, rest) => (.text (String.ofList text), rest)
    | none =>
      match s with
      | '[' :: rest => do
        let rest ← skipLayout false rest
        match rest with
        | ']' :: behind => return (.list [], behind)
        | rest =>
          let (items, behind) ← readItems fuel rest
          return (.list items, behind)
      | '\x7b' :: rest =>
        match skipGaps rest with
        | '\x7d' :: behind => .ok (.table [], behind)
        | rest => readMembers fuel [] rest
      | s => readScalar s

def readItems : Nat → List Char → Except TomlError (List Value × List Char)
  | 0, _ => .error .malformed
  | fuel + 1, s => do
    let (item, rest) ← readValue fuel s
    match ← skipLayout false rest with
    | ']' :: behind => return ([item], behind)
    | ',' :: behind =>
      match ← skipLayout false behind with
      | ']' :: behind => return ([item], behind)
      | rest =>
        let (items, behind) ← readItems fuel rest
        return (item :: items, behind)
    | _ => .error .malformed

/-- The members of a table in one line up to its end, after some that have been read. -/
def readMembers : Nat → Fields → List Char → Except TomlError (Value × List Char)
  | 0, _, _ => .error .malformed
  | fuel + 1, fields, s => do
    let (key, rest) ← readKey s
    match rest with
    | '=' :: behind =>
      let (v, rest) ← readValue fuel (skipGaps behind)
      let fields ← Fields.assignPath 0 key v fields
      match skipGaps rest with
      | '\x7d' :: behind => return (.table (fieldValues fields), behind)
      | ',' :: behind => readMembers fuel fields (skipGaps behind)
      | _ => .error .malformed
    | _ => .error .malformed
end

def readAssignment (s : List Char) : Except TomlError ((List String × Value) × List Char) := do
  let (key, rest) ← readKey s
  match rest with
  | '=' :: behind =>
    let (v, rest) ← readValue (behind.length + 1) (skipGaps behind)
    return ((key, v), rest)
  | _ => .error .malformed

/-- One statement, if the text starts with one: a header or an assignment. -/
def readStatement (d : Document) (s : List Char) : Except TomlError (Document × List Char) :=
  match s with
  | '[' :: '[' :: rest => do
    let (key, rest) ← readKey (skipGaps rest)
    let d ← d.openSection true key
    match rest with
    | ']' :: ']' :: behind => return (d, behind)
    | _ => .error .malformed
  | '[' :: rest => do
    let (key, rest) ← readKey (skipGaps rest)
    let d ← d.openSection false key
    match rest with
    | ']' :: behind => return (d, behind)
    | _ => .error .malformed
  | [] | '#' :: _ | '\n' :: _ => .ok (d, s)
  | s => do
    let ((key, v), rest) ← readAssignment s
    return (← d.assign key v, rest)

/-- All statements. Each line takes one unit of fuel. -/
def readStatements : Nat → Document → List Char → Except TomlError Document
  | 0, _, _ => .error .malformed
  | fuel + 1, d, s => do
    let (d, rest) ← readStatement d (skipGaps s)
    match ← skipComment (skipGaps rest) with
    | [] => return d
    | '\n' :: behind => readStatements fuel d behind
    | _ => .error .malformed

/-- Turns pairs of a carriage return and a line feed into single line feeds. -/
def joinLineEnds : List Char → List Char
  | [] => []
  | '\r' :: '\n' :: rest => '\n' :: joinLineEnds rest
  | c :: rest => c :: joinLineEnds rest

def ofText (s : String) : Except TomlError (List (String × Value)) :=
  let text := joinLineEnds s.toList
  (readStatements (text.length + 1) {} text).map fun d => fieldValues d.fields

end PatchReview.Toml
