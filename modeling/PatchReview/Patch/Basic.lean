import PatchReview.Text.Basic

/-! Patches: what one change does to one file, as hunks of lines. -/
namespace PatchReview

inductive LineKind where
  | context
  | add
  | delete
deriving DecidableEq

def LineKind.name : LineKind → String
  | context => "context"
  | add => "add"
  | delete => "delete"

/-- One line of a hunk with its number in the old and in the new file, where it has one. -/
structure PatchLine where
  kind : LineKind
  content : String
  oldNumber : Option Nat
  newNumber : Option Nat
deriving DecidableEq

/-- The lines that a hunk says it covers. -/
structure HunkRange where
  oldStart : Nat
  oldCount : Nat
  newStart : Nat
  newCount : Nat
deriving DecidableEq

/-- Neighbouring lines that change together. -/
structure Hunk where
  range : HunkRange
  lines : List PatchLine
deriving DecidableEq

/-- All hunks that touch one file. -/
structure FilePatch where
  oldPath : Option String := none
  newPath : Option String := none
  hunks : List Hunk := []
  isBinary : Bool := false
deriving DecidableEq

namespace FilePatch

/-- The path that stands for a missing file. -/
def noFile : String := "/dev/null"

/-- The path of the file: the new one unless there is none. -/
def path (p : FilePatch) : String :=
  let known := [p.newPath, p.oldPath].filterMap fun o => o.filter fun s => s != "" && s != noFile
  known.headD "<unknown>"

def isNew (p : FilePatch) : Bool := p.oldPath == some noFile

def isDeleted (p : FilePatch) : Bool := p.newPath == some noFile

/-- The number in the new file and the text of a line that is added. -/
def addedLine? (l : PatchLine) : Option (Nat × String) :=
  if l.kind = .add then l.newNumber.map (·, l.content) else none

/-- The added lines with their numbers in the new file. -/
def addedLines (p : FilePatch) : List (Nat × String) :=
  p.hunks.flatMap fun h => h.lines.filterMap addedLine?

def addedText (p : FilePatch) : String := Text.join "\n" (p.addedLines.map (·.2))

end FilePatch
end PatchReview
