import PatchReview.Text.Quoted
import PatchReview.Value

/-! Values written as JSON in one line: keys sorted by code point, `", "` between members and
`": "` after a key. -/
namespace PatchReview.Json

/-- Whether characters from U+007F on are written as they are or as escapes. -/
inductive Charset where
  | unicode
  | ascii
deriving DecidableEq

/-- A code unit of 16 bits as an escape. -/
def unitEscape (n : Nat) : List Char := '\\' :: 'u' :: Text.hexDigits 4 n

def stringChar (charset : Charset) (c : Char) : List Char :=
  if c = '"' || c = '\\' then ['\\', c]
  else if c = '\n' then ['\\', 'n']
  else if c = '\r' then ['\\', 'r']
  else if c = '\t' then ['\\', 't']
  else if c = '\x08' then ['\\', 'b']
  else if c = '\x0c' then ['\\', 'f']
  else if c.toNat < 0x20 then unitEscape c.toNat
  else if c.toNat < 0x7F || charset = .unicode then [c]
  else if c.toNat < 0x10000 then unitEscape c.toNat
  else
    let n := c.toNat - 0x10000
    unitEscape (0xD800 + n / 0x400) ++ unitEscape (0xDC00 + n % 0x400)

def stringText (charset : Charset) (s : String) : String :=
  String.ofList ('"' :: s.toList.flatMap (stringChar charset) ++ ['"'])

mutual
def text (charset : Charset) : Value → String
  | .null => "null"
  | .bool b => if b then "true" else "false"
  | .int n => toString n
  | .float x => dataLayout.text x
  | .text s => stringText charset s
  | .list items => "[" ++ Text.join ", " (itemTexts charset items) ++ "]"
  | .table fields =>
    let members := (memberTexts charset fields).mergeSort fun a b => a.1 ≤ b.1
    "\x7b" ++ Text.join ", " (members.map (·.2)) ++ "\x7d"
  | .moment written => stringText charset written

def itemTexts (charset : Charset) : List Value → List String
  | [] => []
  | v :: rest => text charset v :: itemTexts charset rest

/-- Each key with the JSON text of its member. -/
def memberTexts (charset : Charset) : List (String × Value) → List (String × String)
  | [] => []
  | (k, v) :: rest =>
    (k, stringText charset k ++ ": " ++ text charset v) :: memberTexts charset rest
end

end PatchReview.Json
