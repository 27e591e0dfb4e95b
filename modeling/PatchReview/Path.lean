import PatchReview.Text.Basic

/-! File paths with `/` between their parts. -/
namespace PatchReview

/-- A path: what stands before the first part (`""`, `"/"` or `"//"`), and the parts. No part is
empty or `.`, so repeated and trailing slashes do not matter. -/
structure Path where
  root : String
  parts : List String
deriving DecidableEq

namespace Path

/-- Exactly two slashes in front are kept as two; any other number counts as one. -/
def rootOf : List Char → String
  | '/' :: '/' :: '/' :: _ => "/"
  | '/' :: '/' :: _ => "//"
  | '/' :: _ => "/"
  | _ => ""

def ofString (s : String) : Path :=
  ⟨rootOf s.toList,
    ((Text.splitAt '/' s.toList).map String.ofList).filter fun p => p != "" && p != "."⟩

/-- The path in its shortest spelling; `.` if it has neither root nor parts. -/
def toString (p : Path) : String :=
  let s := p.root ++ Text.join "/" p.parts
  if s.isEmpty then "." else s

def isAbsolute (p : Path) : Bool := !p.root.isEmpty

/-- The path `q` as seen from `p`. -/
def append (p q : Path) : Path :=
  if q.isAbsolute then q else ⟨p.root, p.parts ++ q.parts⟩

def name (p : Path) : String := p.parts.getLastD ""

def parent (p : Path) : Path := ⟨p.root, p.parts.dropLast⟩

/-- Goes through the parts from `done`, which is given from its end; `..` takes one part back. -/
def collapse (done : List String) : List String → List String
  | [] => done.reverse
  | p :: rest => if p = ".." then collapse (done.drop 1) rest else collapse (p :: done) rest

/-- The absolute path without `..`, seen from the directory `base`. -/
def resolve (base p : Path) : Path := ⟨"/", collapse [] (base.append p).parts⟩

/-- The ending of a name from its last dot on. A dot that is the first or the last character of
the name makes no ending. -/
def endingOf (name : String) : List Char :=
  let tail := name.toList.reverse.takeWhile (· != '.')
  if tail.isEmpty || name.toList.length ≤ tail.length + 1 then [] else '.' :: tail.reverse

/-- The ending of the last part, with its dot. -/
def ending (p : Path) : List Char := endingOf p.name

end Path
end PatchReview
