import PatchReview.Number.Reading
import PatchReview.Patch.Basic
import PatchReview.Text.Blank
import PatchReview.Text.Digit
import PatchReview.Text.Lines

/-! Reading unified diffs, with or without the header lines of version control. The reader goes
from line to line. A line belongs to the open hunk, opens a hunk or a patch, tells a path, or is
passed over. -/
namespace PatchReview

/-- A hunk whose lines are being read; the last one read comes first. -/
structure OpenHunk where
  range : HunkRange
  reversed : List PatchLine := []
  /-- The numbers of the next line in the old and in the new file. -/
  oldNext : Nat := range.oldStart
  newNext : Nat := range.newStart

namespace OpenHunk

def close (h : OpenHunk) : Hunk := ⟨h.range, h.reversed.reverse⟩

/-- As many lines are read as the range says. -/
def isDone (h : OpenHunk) : Bool :=
  h.range.oldStart + h.range.oldCount ≤ h.oldNext && h.range.newStart + h.range.newCount ≤ h.newNext

def push (h : OpenHunk) (kind : LineKind) (content : List Char) : OpenHunk :=
  let text := String.ofList content
  match kind with
  | .add =>
    { h with
      reversed := ⟨.add, text, none, some h.newNext⟩ :: h.reversed
      newNext := h.newNext + 1 }
  | .delete =>
    { h with
      reversed := ⟨.delete, text, some h.oldNext, none⟩ :: h.reversed
      oldNext := h.oldNext + 1 }
  | .context =>
    { h with
      reversed := ⟨.context, text, some h.oldNext, some h.newNext⟩ :: h.reversed
      oldNext := h.oldNext + 1
      newNext := h.newNext + 1 }

end OpenHunk

/-- A line that starts like the head of a hunk and is none. -/
structure BadHunkHeader where
  line : String
deriving DecidableEq

def BadHunkHeader.message (e : BadHunkHeader) : String := "Invalid hunk header: " ++ e.line

inductive DiffError where
  | badHeader (e : BadHunkHeader)
  | integerTooLong (digits : Nat)

def DiffError.message : DiffError → String
  | badHeader e => e.message
  | integerTooLong digits => Number.tooLongMessage (some digits)

namespace HunkRange

def numberOf (digits : List Char) : Nat :=
  digits.foldl (fun n c => 10 * n + (Text.digitValue? c).getD 0) 0

/-- A number at the start of a text, and what follows it. -/
def number? (s : List Char) : Option (Nat × List Char) :=
  match s.takeWhile Text.isDigit with
  | [] => none
  | digits => some (numberOf digits, s.dropWhile Text.isDigit)

/-- A start and a count, which is one if it is left out. -/
def span? (s : List Char) : Option (Nat × Nat × List Char) := do
  let (start, rest) ← number? s
  match rest with
  | ',' :: behind =>
    let (count, rest) ← number? behind
    some (start, count, rest)
  | _ => some (start, 1, rest)

/-- The range in the head of a hunk, `@@ -start,count +start,count @@` and anything behind. -/
def ofHeader? (s : List Char) : Option HunkRange := do
  let s ← Text.after? "@@ -" s
  let (oldStart, oldCount, s) ← span? s
  let s ← Text.after? " +" s
  let (newStart, newCount, s) ← span? s
  let _ ← Text.after? " @@" s
  some ⟨oldStart, oldCount, newStart, newCount⟩

/-- The number of digits of the first number in the head of a hunk that has too many of them. -/
def longNumber? (s : List Char) : Option Nat :=
  (ofHeader? s).bind fun _ =>
    let numbers := ((s.drop 2).takeWhile (· != '@')).splitBy fun c d =>
      Text.isDigit c && Text.isDigit d
    (numbers.map List.length).find? (Number.maxDigits < ·)

end HunkRange

namespace FilePatch

/-- The path without the letter that tells the two sides of a comparison apart. -/
def stripSide : List Char → List Char
  | 'a' :: '/' :: rest => rest
  | 'b' :: '/' :: rest => rest
  | s => s

/-- The path in a `---` or `+++` line: up to a tab, without blanks around it. -/
def headerPath (s : List Char) : String :=
  String.ofList (stripSide (Text.trim (s.takeWhile (· != '\t'))))

/-- The patch that a line `diff --git old new` opens. -/
def ofGitHeader (line : List Char) : FilePatch :=
  let words := Text.splitAt ' ' line
  let side (n : Nat) : Option String := words[n]?.map fun w => String.ofList (stripSide w)
  { oldPath := side 2, newPath := side 3 }

end FilePatch

/-- What the reader knows after some lines. -/
structure DiffReader where
  /-- The patches that are complete, the last one first. -/
  done : List FilePatch := []
  /-- The patch being read, with its closed hunks. -/
  patch : Option FilePatch := none
  /-- The open hunk of that patch. -/
  hunk : Option OpenHunk := none

namespace DiffReader

/-- The patch being read, with all its hunks. -/
def current (r : DiffReader) : Option FilePatch :=
  match r.patch, r.hunk with
  | some p, some h => some { p with hunks := p.hunks ++ [h.close] }
  | p, _ => p

def patches (r : DiffReader) : List FilePatch := (r.current.toList ++ r.done).reverse

def closeHunk (r : DiffReader) : DiffReader := { r with patch := r.current, hunk := none }

def begin (r : DiffReader) (p : FilePatch) : DiffReader :=
  { done := r.current.toList ++ r.done, patch := some p, hunk := none }

/-- A patch to which a path or a hunk can be added: the one being read, or a new one. -/
def ensurePatch (r : DiffReader) : DiffReader :=
  if r.patch.isNone then r.begin {} else r

/-- Outside a hunk, or behind the last line of one. -/
def expectsHeader (r : DiffReader) : Bool := r.hunk.all OpenHunk.isDone

/-- Reads the old path, which opens a new patch if the one being read has hunks. -/
def readOldPath (r : DiffReader) (path : String) : DiffReader :=
  let r := r.closeHunk
  let r := if r.patch.any (·.hunks.isEmpty) then r else r.begin {}
  { r with patch := r.patch.map ({ · with oldPath := some path }) }

/-- Reads a line of the body of the open hunk. Lines that are none are passed over. -/
def readBody (r : DiffReader) (h : OpenHunk) (line : List Char) : DiffReader :=
  match line with
  | '+' :: content => { r with hunk := some (h.push .add content) }
  | '-' :: content => { r with hunk := some (h.push .delete content) }
  | ' ' :: content => { r with hunk := some (h.push .context content) }
  | [] => if h.isDone then r else { r with hunk := some (h.push .context []) }
  | _ => r

def step (r : DiffReader) (line : List Char) : Except BadHunkHeader DiffReader :=
  if "diff --git ".toList.isPrefixOf line then .ok (r.begin (FilePatch.ofGitHeader line))
  else if "--- ".toList.isPrefixOf line && r.expectsHeader then
    .ok (r.readOldPath (FilePatch.headerPath (line.drop 4)))
  else if "+++ ".toList.isPrefixOf line && r.hunk.isNone && r.patch.isSome then
    .ok { r with patch := r.patch.map ({ · with
      newPath := some (FilePatch.headerPath (line.drop 4)) }) }
  else if "Binary files ".toList.isPrefixOf line && r.patch.isSome then
    .ok { r with patch := r.patch.map ({ · with isBinary := true }) }
  else if "@@".toList.isPrefixOf line then
    match HunkRange.ofHeader? line with
    | none => .error ⟨String.ofList line⟩
    | some range => .ok { r.ensurePatch.closeHunk with hunk := some { range } }
  else
    match r.hunk with
    | none => .ok r
    | some h => .ok (r.readBody h line)

end DiffReader

namespace FilePatch

def ofLines? (lines : List (List Char)) : Except BadHunkHeader (List FilePatch) :=
  (lines.foldlM DiffReader.step {}).map DiffReader.patches

def ofDiff? (text : String) : Except BadHunkHeader (List FilePatch) :=
  ofLines? (Text.lines text.toList)

/-- The patches in a text, which is read up to the first number that is too long. -/
def readDiff? (text : String) : Except DiffError (List FilePatch) := do
  let lines := Text.lines text.toList
  let patches ← (ofLines? (lines.takeWhile fun line => (HunkRange.longNumber? line).isNone)).mapError
    .badHeader
  match lines.findSome? HunkRange.longNumber? with
  | some digits => throw (.integerTooLong digits)
  | none => return patches

end FilePatch
end PatchReview
