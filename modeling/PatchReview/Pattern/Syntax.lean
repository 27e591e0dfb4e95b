/-! Regular expressions. The flags in force are resolved when an expression is read, so a part of
it means the same wherever it stands. -/
namespace PatchReview.Pattern

inductive CharClass where
  | digit
  | blank
  | word
deriving DecidableEq

/-- A member of a set of characters. The ends of a range are code points, which need not be
those of characters. -/
inductive SetItem where
  | range (first last : Nat)
  | named (cls : CharClass) (negated ascii : Bool)
deriving DecidableEq

/-- The places that match without a character. -/
inductive Anchor where
  | textStart
  | lineStart
  | textEnd
  /-- The end, or the line feed at the end. -/
  | finalLineEnd
  | lineEnd
  | wordEdge (ascii : Bool)
  | noWordEdge (ascii : Bool)
deriving DecidableEq

inductive CaseRule where
  | exact
  /-- Case does not count among ASCII letters. -/
  | ascii
  /-- Case does not count. -/
  | anyForm
deriving DecidableEq

/-- How a repetition tries the numbers of its iterations. -/
inductive Greed where
  | greedy
  | lazy
  /-- Greedy, and what it has taken is never given back. -/
  | possessive
deriving DecidableEq

/-- A regular expression. Groups are numbered from one in the order in which they open. -/
inductive Node where
  | empty
  | set (rule : CaseRule) (negated : Bool) (items : List SetItem)
  | anyChar (lineFeedToo : Bool)
  | anchor (a : Anchor)
  | cat (a b : Node)
  | alt (a b : Node)
  | group (index : Nat) (body : Node)
  | iterate (min : Nat) (max : Option Nat) (greed : Greed) (body : Node)
  | atomic (body : Node)
  | ahead (negated : Bool) (body : Node)
  /-- Looks at the text that starts `width` characters before. -/
  | behind (negated : Bool) (width : Nat) (body : Node)
  | again (rule : CaseRule) (index : Nat)
  | ifGroup (index : Nat) (yes no : Node)

/-- The least and the greatest number of characters of a match; `none` stands for no bound. -/
structure Width where
  min : Nat
  max : Option Nat
deriving DecidableEq

namespace Width

/-- One match behind another. -/
def add (a b : Width) : Width :=
  ⟨a.min + b.min, match a.max, b.max with
    | some x, some y => some (x + y)
    | _, _ => none⟩

/-- Either of two matches. -/
def join (a b : Width) : Width :=
  ⟨Nat.min a.min b.min, match a.max, b.max with
    | some x, some y => some (Nat.max x y)
    | _, _ => none⟩

/-- Repeated matches. -/
def iterate (a : Width) (min : Nat) (max : Option Nat) : Width :=
  ⟨a.min * min, match max, a.max with
    | _, some 0 => some 0
    | some n, some m => some (m * n)
    | _, _ => none⟩

/-- Every match has this many characters. -/
def fixed? (a : Width) : Option Nat := if a.max = some a.min then some a.min else none

end Width

/-- The width of an expression, where `groups` tells the widths of the groups. -/
def Node.width (groups : Nat → Width) : Node → Width
  | empty | anchor _ | ahead .. | behind .. => ⟨0, some 0⟩
  | set .. | anyChar _ => ⟨1, some 1⟩
  | cat a b => (a.width groups).add (b.width groups)
  | alt a b => (a.width groups).join (b.width groups)
  | group _ body | atomic body => body.width groups
  | iterate min max _ body => (body.width groups).iterate min max
  | again _ index => groups index
  | ifGroup _ yes no => (yes.width groups).join (no.width groups)

end PatchReview.Pattern
