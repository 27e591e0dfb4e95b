import PatchReview.Patch.Reader
import PatchReview.Proofs.Text.Lines

/-! Unified diffs as they are written. One patch has many texts: version control may put lines of
its own above it, a count of one may be left out, and notes may stand between the lines of a hunk.
Each structure holds what a text says together with these choices, and nothing that could not be
written: line numbers and counts follow from the lines. -/
namespace PatchReview

/-- A text that fits into one line. -/
abbrev LineText := { s : String // Text.IsLine s }

/-- A path that fits into a line behind `---` or `+++`. -/
structure PathText where
  path : String
  isLine : Text.IsLine path
  no_tab : '\t' ∉ path.toList
  no_blank_end : ∀ c ∈ path.toList.getLast?, Text.isBlank c = false

/-- What stands in front of a line of a hunk. -/
def LineKind.mark : LineKind → String
  | context => " "
  | add => "+"
  | delete => "-"

def LineKind.isOld (k : LineKind) : Bool := k ≠ .add

def LineKind.isNew (k : LineKind) : Bool := k ≠ .delete

structure WrittenLine where
  kind : LineKind
  content : LineText
  /-- The line goes without its mark if it is an empty one that does not change. -/
  isBare : Bool := false
  /-- What a note below says, such as that no line feed stands behind the line. -/
  note : Option LineText := none

namespace WrittenLine

def text (l : WrittenLine) : String :=
  if l.isBare ∧ l.kind = .context ∧ l.content.1 = "" then "" else l.kind.mark ++ l.content.1

def texts (l : WrittenLine) : List String := l.text :: (l.note.map ("\\" ++ ·.1)).toList

/-- Numbers lines from the next old and the next new number on. -/
def number : Nat → Nat → List WrittenLine → List PatchLine
  | _, _, [] => []
  | old, new, l :: ls =>
    ⟨l.kind, l.content.1, if l.kind.isOld then some old else none,
        if l.kind.isNew then some new else none⟩ ::
      number (old + if l.kind.isOld then 1 else 0) (new + if l.kind.isNew then 1 else 0) ls

def oldCount (ls : List WrittenLine) : Nat := ls.countP (·.kind.isOld)

def newCount (ls : List WrittenLine) : Nat := ls.countP (·.kind.isNew)

end WrittenLine

structure WrittenHunk where
  oldStart : Nat
  newStart : Nat
  lines : List WrittenLine
  /-- Whether a count of one is left out. -/
  omitsOld : Bool := false
  omitsNew : Bool := false
  /-- What stands behind the numbers. -/
  heading : LineText := ⟨"", by decide⟩

namespace WrittenHunk

def range (h : WrittenHunk) : HunkRange :=
  ⟨h.oldStart, WrittenLine.oldCount h.lines, h.newStart, WrittenLine.newCount h.lines⟩

def hunk (h : WrittenHunk) : Hunk := ⟨h.range, WrittenLine.number h.oldStart h.newStart h.lines⟩

def spanText (omits : Bool) (start count : Nat) : String :=
  toString start ++ if omits ∧ count = 1 then "" else "," ++ toString count

def header (h : WrittenHunk) : String :=
  "@@ -" ++ spanText h.omitsOld h.oldStart h.range.oldCount ++ " +" ++
    spanText h.omitsNew h.newStart h.range.newCount ++ " @@" ++ h.heading.1

def texts (h : WrittenHunk) : List String := h.header :: h.lines.flatMap (·.texts)

end WrittenHunk

/-- A path behind `---` or `+++`, perhaps with a time of change. -/
structure WrittenPath extends PathText where
  stamp : Option LineText := none

/-- The path with the letter of its side, or the one that stands for a missing file. -/
def WrittenPath.text (side : String) (p : WrittenPath) : String :=
  (if p.path = FilePatch.noFile then p.path else side ++ p.path) ++
    ((p.stamp.map ("\t" ++ ·.1)).getD "")

inductive GitNoteKind where
  | index
  | oldMode
  | newMode
  | similarity
  | dissimilarity
  | renameFrom
  | renameTo
  | copyFrom
  | copyTo
  | newFile
  | deletedFile

def GitNoteKind.keyword : GitNoteKind → String
  | index => "index "
  | oldMode => "old mode "
  | newMode => "new mode "
  | similarity => "similarity index "
  | dissimilarity => "dissimilarity index "
  | renameFrom => "rename from "
  | renameTo => "rename to "
  | copyFrom => "copy from "
  | copyTo => "copy to "
  | newFile => "new file mode "
  | deletedFile => "deleted file mode "

/-- The lines of version control above a patch: the names of both sides, and notes. -/
structure GitHeader where
  oldName : LineText
  newName : LineText
  notes : List (GitNoteKind × LineText) := []

namespace GitHeader

def title (g : GitHeader) : String :=
  "diff --git " ++ ("a/" ++ g.oldName.1 ++ " b/" ++ g.newName.1)

def noteText (note : GitNoteKind × LineText) : String := note.1.keyword ++ note.2.1

def texts (g : GitHeader) : List String := g.title :: g.notes.map noteText

end GitHeader

structure WrittenPatch where
  /-- The lines of version control, if it wrote the patch. -/
  git : Option GitHeader := none
  oldPath : WrittenPath
  newPath : WrittenPath
  hunks : List WrittenHunk
  hunks_ne_nil : hunks ≠ []

namespace WrittenPatch

def patch (w : WrittenPatch) : FilePatch where
  oldPath := some w.oldPath.path
  newPath := some w.newPath.path
  hunks := w.hunks.map (·.hunk)

def pathTexts (w : WrittenPatch) : List String :=
  ["--- " ++ w.oldPath.text "a/", "+++ " ++ w.newPath.text "b/"]

def texts (w : WrittenPatch) : List String :=
  (w.git.map (·.texts)).getD [] ++ w.pathTexts ++ w.hunks.flatMap (·.texts)

/-- A diff of several patches, with a line feed behind every line. -/
def diff (ws : List WrittenPatch) : String := Text.unlines (ws.flatMap texts)

end WrittenPatch

theorem LineKind.isLine_mark (k : LineKind) : Text.IsLine k.mark := by cases k <;> decide

theorem WrittenLine.isLine_texts (l : WrittenLine) : ∀ t ∈ l.texts, Text.IsLine t := by
  intro t ht
  rcases List.mem_cons.1 ht with rfl | ht
  · rw [text]
    split
    · decide
    · exact Text.isLine_append.2 ⟨l.kind.isLine_mark, l.content.2⟩
  · obtain ⟨s, -, rfl⟩ := Option.map_eq_some_iff.1 (Option.mem_toList.1 ht)
    exact Text.isLine_append.2 ⟨by decide, s.2⟩

theorem WrittenHunk.isLine_spanText (omits : Bool) (start count : Nat) :
    Text.IsLine (spanText omits start count) := by
  rw [spanText, Text.isLine_append]
  refine ⟨Text.isLine_toString start, ?_⟩
  split
  · decide
  · exact Text.isLine_append.2 ⟨by decide, Text.isLine_toString count⟩

theorem WrittenHunk.isLine_texts (h : WrittenHunk) : ∀ t ∈ h.texts, Text.IsLine t := by
  intro t ht
  rcases List.mem_cons.1 ht with rfl | ht
  · simp only [header, Text.isLine_append]
    exact ⟨⟨⟨⟨⟨by decide, isLine_spanText _ _ _⟩, by decide⟩, isLine_spanText _ _ _⟩, by decide⟩,
      h.heading.2⟩
  · obtain ⟨l, -, ht⟩ := List.mem_flatMap.1 ht
    exact l.isLine_texts t ht

theorem WrittenPath.isLine_text {side : String} (hside : Text.IsLine side) (p : WrittenPath) :
    Text.IsLine (p.text side) := by
  rw [text, Text.isLine_append]
  constructor
  · split
    · exact p.isLine
    · exact Text.isLine_append.2 ⟨hside, p.isLine⟩
  · cases p.stamp with
    | none => decide
    | some s => exact Text.isLine_append.2 ⟨by decide, s.2⟩

theorem GitHeader.isLine_noteText (note : GitNoteKind × LineText) :
    Text.IsLine (noteText note) := by
  refine Text.isLine_append.2 ⟨?_, note.2.2⟩
  cases note.1 <;> decide

theorem GitHeader.isLine_texts (g : GitHeader) : ∀ t ∈ g.texts, Text.IsLine t := by
  intro t ht
  rcases List.mem_cons.1 ht with rfl | ht
  · simp only [title, Text.isLine_append]
    exact ⟨by decide, ⟨⟨by decide, g.oldName.2⟩, by decide⟩, g.newName.2⟩
  · obtain ⟨note, -, rfl⟩ := List.mem_map.1 ht
    exact isLine_noteText note

/-- No line of a written patch is cut in two when the text is read. -/
theorem WrittenPatch.isLine_texts (w : WrittenPatch) : ∀ t ∈ w.texts, Text.IsLine t := by
  intro t ht
  simp only [texts, pathTexts, List.mem_append, List.mem_cons, List.not_mem_nil, or_false] at ht
  rcases ht with (ht | rfl | rfl) | ht
  · cases hg : w.git with
    | none => simp [hg] at ht
    | some g => exact g.isLine_texts t (by simpa [hg] using ht)
  · exact Text.isLine_append.2 ⟨by decide, w.oldPath.isLine_text (by decide)⟩
  · exact Text.isLine_append.2 ⟨by decide, w.newPath.isLine_text (by decide)⟩
  · obtain ⟨h, -, ht⟩ := List.mem_flatMap.1 ht
    exact h.isLine_texts t ht

end PatchReview
