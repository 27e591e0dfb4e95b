import PatchReview.Number.Reading
import PatchReview.Toml.Blank

/-! Strings of TOML documents: basic ones with escapes and literal ones without, in one line or in
several. -/
namespace PatchReview.Toml

/-- Puts characters before those that are read. -/
def prepend (cs : List Char) (r : Read (List Char)) : Except TomlError (List Char × List Char) :=
  r.map fun (text, rest) => (cs ++ text, rest)

/-- The character with a number in hexadecimal digits. -/
def hexChar? (digits : List Char) : Option Char := do
  let n ← digits.foldlM (fun n c => (Number.digitOf? c).map (16 * n + ·)) 0
  if n.isValidChar then some (Char.ofNat n) else none

/-- The characters that a backslash and one letter stand for. -/
def simpleEscapes : List (Char × Char) := [
    ('b', '\x08'), ('t', '\t'), ('n', '\n'), ('f', '\x0c'), ('r', '\r'), ('"', '"'),
    ('\\', '\\')]

/-- Where the reader of a basic string stands. -/
inductive Place where
  | text
  /-- Behind a backslash and blanks, before a line end. -/
  | lineEnd
  /-- In the blanks at the start of the lines behind such a line end. -/
  | indent
deriving DecidableEq

/-- The rest of a basic string up to its closing quotation marks. -/
def readBasic (multiline : Bool) : Place → List Char → Except TomlError (List Char × List Char)
  | _, [] => .error .malformed
  | place, c :: rest =>
    if place = .lineEnd then
      if isGap c then readBasic multiline .lineEnd rest
      else if c = '\n' then readBasic multiline .indent rest
      else .error .malformed
    else if place = .indent ∧ isLayout c then readBasic multiline .indent rest
    else if c = '"' then
      if !multiline then .ok ([], rest)
      else match rest with
        | '"' :: '"' :: behind => .ok ([], behind)
        | rest => prepend ['"'] (readBasic multiline .text rest)
    else if c = '\\' then
      match rest with
      | 'u' :: c₁ :: c₂ :: c₃ :: c₄ :: behind =>
        match hexChar? [c₁, c₂, c₃, c₄] with
        | some d => prepend [d] (readBasic multiline .text behind)
        | none => .error .malformed
      | 'U' :: c₁ :: c₂ :: c₃ :: c₄ :: c₅ :: c₆ :: c₇ :: c₈ :: behind =>
        match hexChar? [c₁, c₂, c₃, c₄, c₅, c₆, c₇, c₈] with
        | some d => prepend [d] (readBasic multiline .text behind)
        | none => .error .malformed
      | d :: behind =>
        if multiline ∧ isGap d then readBasic multiline .lineEnd behind
        else if multiline ∧ d = '\n' then readBasic multiline .indent behind
        else match simpleEscapes.lookup d with
          | some e => prepend [e] (readBasic multiline .text behind)
          | none => .error .malformed
      | [] => .error .malformed
    else if isForbidden c && !(multiline && c == '\n') then .error .malformed
    else prepend [c] (readBasic multiline .text rest)

/-- The rest of a literal string up to its closing quotation marks. -/
def readLiteral (multiline : Bool) : List Char → Except TomlError (List Char × List Char)
  | [] => .error .malformed
  | c :: rest =>
    if c = '\'' then
      if !multiline then .ok ([], rest)
      else match rest with
        | '\'' :: '\'' :: behind => .ok ([], behind)
        | rest => prepend ['\''] (readLiteral multiline rest)
    else if isForbidden c && !(multiline && c == '\n') then .error .malformed
    else prepend [c] (readLiteral multiline rest)

/-- Up to two quotation marks more than the closing three belong to the string. -/
def closeMultiline (mark : Char) (r : Read (List Char)) : Except TomlError (List Char × List Char) :=
  r.map fun (text, rest) =>
    let extra := (rest.take 2).takeWhile (· == mark)
    (text ++ extra, rest.drop extra.length)

/-- A line end right behind the opening quotation marks does not count. -/
def dropLineEnd : List Char → List Char
  | '\n' :: rest => rest
  | s => s

def readLineString? : List Char → Option (Read (List Char))
  | '"' :: rest => some (readBasic false .text rest)
  | '\'' :: rest => some (readLiteral false rest)
  | _ => none

def readString? : List Char → Option (Read (List Char))
  | '"' :: '"' :: '"' :: rest =>
    some (closeMultiline '"' (readBasic true .text (dropLineEnd rest)))
  | '\'' :: '\'' :: '\'' :: rest =>
    some (closeMultiline '\'' (readLiteral true (dropLineEnd rest)))
  | s => readLineString? s

/-- The characters of keys without quotation marks. -/
def isBareKey (c : Char) : Bool := c.isAlphanum || c == '-' || c == '_'

def readKeyPart (s : List Char) : Except TomlError (String × List Char) :=
  match readLineString? s with
  | some r => r.map fun (text, rest) => (String.ofList text, rest)
  | none =>
    match s.takeWhile isBareKey with
    | [] => .error .malformed
    | bare => .ok (String.ofList bare, s.dropWhile isBareKey)

/-- A key with parts between dots, and the blanks behind it. Each part takes one unit of fuel. -/
def readKeyWith : Nat → List Char → Except TomlError (List String × List Char)
  | 0, _ => .error .malformed
  | fuel + 1, s => do
    let (part, rest) ← readKeyPart s
    match skipGaps rest with
    | '.' :: behind =>
      let (parts, rest) ← readKeyWith fuel (skipGaps behind)
      return (part :: parts, rest)
    | rest => return ([part], rest)

/-- A key with parts between dots, and the blanks behind it. -/
def readKey (s : List Char) : Except TomlError (List String × List Char) := readKeyWith s.length s

end PatchReview.Toml
