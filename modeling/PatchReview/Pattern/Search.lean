import PatchReview.Pattern.Syntax
import PatchReview.Text.Blank
import PatchReview.Text.Case
import PatchReview.Text.Digit
import PatchReview.Text.Word

/-! Searching a text for a regular expression. Alternatives are tried in order, each with what
stands behind it, and the first way to a match is taken. -/
namespace PatchReview.Pattern

open Text

/-- Small letters that count as one although neither is the lower case of the other. -/
def equivalentLetters : List (List Nat) := [
    [0x69, 0x131], [0x73, 0x17F], [0xB5, 0x3BC], [0x345, 0x3B9, 0x1FBE], [0x390, 0x1FD3],
    [0x3B0, 0x1FE3], [0x3B2, 0x3D0], [0x3B5, 0x3F5], [0x3B8, 0x3D1], [0x3BA, 0x3F0],
    [0x3C0, 0x3D6], [0x3C1, 0x3F1], [0x3C2, 0x3C3], [0x3C6, 0x3D5], [0x432, 0x1C80],
    [0x434, 0x1C81], [0x43E, 0x1C82], [0x441, 0x1C83], [0x442, 0x1C84, 0x1C85], [0x44A, 0x1C86],
    [0x463, 0x1C87], [0x1C88, 0xA64B], [0x1E61, 0x1E9B], [0xFB05, 0xFB06]]

def foldChar (c : Char) : Char := if c = 'İ' then 'i' else lowerChar c

/-- The small letters that match a character when case does not count. -/
def smallForms (c : Char) : List Char :=
  let small := foldChar c
  match equivalentLetters.find? (·.contains small.toNat) with
  | some codes => codes.map Char.ofNat
  | none => [small]

/-- The characters whose lower case is `c`, other than `c`. -/
def capitalsOf (c : Char) : List Char :=
  let byRuns := lowerRuns.filterMap fun r =>
    let origin := Char.ofNat ((c.toNat : Int) - r.shift).toNat
    if origin != c && r.covers origin && r.map origin == c then some origin else none
  let ascii := if c.isLower then [c.toUpper] else []
  let dotted := if c = 'i' then ['İ'] else []
  ascii ++ dotted ++ byRuns

def CaseRule.forms (c : Char) : CaseRule → List Char
  | exact => [c]
  | ascii => [c, c.toLower, c.toUpper]
  | anyForm => c :: (smallForms c).flatMap fun s => s :: capitalsOf s

def CaseRule.same (a b : Char) : CaseRule → Bool
  | exact => a == b
  | ascii => a.toLower == b.toLower
  | anyForm => foldChar a == foldChar b

def inClass (cls : CharClass) (ascii : Bool) (c : Char) : Bool :=
  if ascii && 128 ≤ c.toNat then false
  else match cls with
    | .digit => isDigit c
    | .blank => isBlank c && !(ascii && 0x1C ≤ c.toNat && c.toNat ≤ 0x1F)
    | .word => isWord c

/-- Whether a member of a set covers a character. -/
def SetItem.covers (c : Char) : SetItem → Bool
  | range first last => first ≤ c.toNat && c.toNat ≤ last
  | named cls negated ascii => inClass cls ascii c != negated

def inSet (rule : CaseRule) (items : List SetItem) (c : Char) : Bool :=
  let forms := rule.forms c
  items.any fun item => forms.any fun f => item.covers f

/-- A place in a text: what stands before it, from its end, what stands behind it, and what the
groups have matched, the last match first. -/
structure Place where
  before : List Char
  behind : List Char
  groups : List (Nat × List Char) := []

namespace Place

/-- The place behind the next character. -/
def next? (p : Place) : Option (Char × Place) :=
  match p.behind with
  | [] => none
  | c :: rest => some (c, { p with before := c :: p.before, behind := rest })

/-- The place `n` characters before. -/
def back? : Nat → Place → Option Place
  | 0, p => some p
  | n + 1, p =>
    match p.before with
    | [] => none
    | c :: rest => back? n { p with before := rest, behind := c :: p.behind }

/-- The place behind a text that is found here. -/
def skip? (same : Char → Char → Bool) : List Char → Place → Option Place
  | [], p => some p
  | c :: text, p =>
    match p.next? with
    | some (d, q) => if same c d then skip? same text q else none
    | none => none

/-- Both places are equally far from the end. -/
def isAt (p q : Place) : Bool := p.behind.length == q.behind.length

/-- An edge between a word character and something else. A text without characters has none. -/
def isWordEdge (ascii : Bool) (p : Place) : Bool :=
  let isWordAt (c : Option Char) : Bool := c.any (inClass .word ascii)
  isWordAt p.before.head? != isWordAt p.behind.head?

def holds (p : Place) : Anchor → Bool
  | .textStart => p.before.isEmpty
  | .lineStart => p.before.head?.all (· == '\n')
  | .textEnd => p.behind.isEmpty
  | .finalLineEnd => p.behind.isEmpty || p.behind == ['\n']
  | .lineEnd => p.behind.head?.all (· == '\n')
  | .wordEdge ascii => p.isWordEdge ascii
  | .noWordEdge ascii => !(p.before.isEmpty && p.behind.isEmpty) && !p.isWordEdge ascii

end Place

/-- What is to be matched next: the place where all of it ends, if there is a way. -/
abbrev Goal := Place → Option Place

/-- The iterations of a repetition beyond those it must have. One that takes no character is the
last. `more` bounds their number, and `fuel` the characters that they can take. -/
def iterateOptional (body : Goal → Goal) (greed : Greed) (goal : Goal) :
    Nat → Option Nat → Option Place → Goal
  | 0, _, _, p => goal p
  | fuel + 1, more, last, p =>
    let again : Unit → Option Place := fun _ =>
      if more = some 0 || last.any (·.isAt p) then none
      else body (iterateOptional body greed goal fuel (more.map (· - 1)) (some p)) p
    match greed with
    | .lazy =>
      match goal p with
      | some q => some q
      | none => again ()
    | .greedy | .possessive =>
      match again () with
      | some q => some q
      | none => goal p

/-- A repetition: first the iterations that it must have. One of these that takes no character
could be repeated as often as needed. -/
def iterateFrom (body : Goal → Goal) (max : Option Nat) (greed : Greed) (goal : Goal) :
    Nat → Goal
  | 0, p => iterateOptional body greed goal (p.behind.length + 2) max none p
  | n + 1, p =>
    body (fun q =>
      if q.isAt p then iterateOptional body greed goal (q.behind.length + 2) max none q
      else iterateFrom body max greed goal n q) p

namespace Node

/-- Matches an expression at a place, and the goal behind it. -/
def run : Node → Goal → Goal
  | empty, goal, p => goal p
  | set rule negated items, goal, p =>
    match p.next? with
    | some (c, q) => if inSet rule items c != negated then goal q else none
    | none => none
  | anyChar lineFeedToo, goal, p =>
    match p.next? with
    | some (c, q) => if lineFeedToo || c != '\n' then goal q else none
    | none => none
  | anchor a, goal, p => if p.holds a then goal p else none
  | cat a b, goal, p => a.run (b.run goal) p
  | alt a b, goal, p =>
    match a.run goal p with
    | some q => some q
    | none => b.run goal p
  | group index body, goal, p =>
    body.run (fun q =>
      let taken := p.behind.take (p.behind.length - q.behind.length)
      goal { q with groups := (index, taken) :: q.groups }) p
  | iterate min max greed body, goal, p =>
    let rest := max.map (· - min)
    match greed with
    | .possessive =>
      match iterateFrom body.run rest .greedy some min p with
      | some q => goal q
      | none => none
    | greed => iterateFrom body.run rest greed goal min p
  | atomic body, goal, p =>
    match body.run some p with
    | some q => goal q
    | none => none
  | ahead negated body, goal, p =>
    match body.run some p with
    | some q => if negated then none else goal { p with groups := q.groups }
    | none => if negated then goal p else none
  | behind negated width body, goal, p =>
    match (p.back? width).bind (body.run some) with
    | some q => if negated then none else goal { p with groups := q.groups }
    | none => if negated then goal p else none
  | again rule index, goal, p =>
    match (p.groups.lookup index).bind fun text => p.skip? (rule.same · ·) text with
    | some q => goal q
    | none => none
  | ifGroup index yes no, goal, p =>
    if (p.groups.lookup index).isSome then yes.run goal p else no.run goal p

/-- Whether the expression matches at a place or at one behind it. -/
def foundFrom (node : Node) (before : List Char) : List Char → Bool
  | [] => (node.run some ⟨before, [], []⟩).isSome
  | c :: rest =>
    (node.run some ⟨before, c :: rest, []⟩).isSome || node.foundFrom (c :: before) rest

/-- Whether the expression matches somewhere in the text. -/
def found (node : Node) (text : List Char) : Bool := node.foundFrom [] text

end Node
end PatchReview.Pattern
