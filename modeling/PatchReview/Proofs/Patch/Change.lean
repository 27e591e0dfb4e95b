import PatchReview.Proofs.Patch.Written

/-! Changes of files as version control writes them. A title gives the names of both sides, and
notes below it say what is done to the file. Paths and hunks follow only where text changes, so
nothing but the notes tells that an empty file comes or goes. -/
namespace PatchReview

/-- The name of a file in a repository, as bytes. -/
structure RepoName where
  bytes : List UInt8
  ne_nil : bytes ≠ []
  isRelative : bytes.head? ≠ some 0x2F

namespace RepoName

/-- Printable bytes but for the quotation mark and the backslash. -/
def isPlainByte (b : UInt8) : Bool := 0x20 ≤ b && b < 0x7F && b != 0x22 && b != 0x5C

/-- The bytes that have a letter of their own behind a backslash. -/
def letters : List (UInt8 × Char) :=
  [(0x07, 'a'), (0x08, 'b'), (0x09, 't'), (0x0A, 'n'), (0x0B, 'v'), (0x0C, 'f'), (0x0D, 'r'),
    (0x22, '"'), (0x5C, '\\')]

/-- Three octal digits. -/
def octal (b : UInt8) : List Char := [b / 64, b / 8 % 8, b % 8].map fun d => d.toNat.digitChar

def escape (b : UInt8) : List Char :=
  if isPlainByte b then [Char.ofUInt8 b]
  else '\\' :: ((letters.lookup b).map ([·])).getD (octal b)

variable (n : RepoName)

/-- The name as it stands in a text, which is the name itself if it is plain. -/
def escaped : String := String.ofList (n.bytes.flatMap escape)

def isPlain : Bool := n.bytes.all isPlainByte

/-- The name behind the letter of a side, in quotation marks if something in it is escaped. -/
def text (side : String) : String :=
  if n.isPlain then side ++ n.escaped else "\"" ++ (side ++ n.escaped) ++ "\""

/-- The name behind `---` or `+++`, with a tab at the end if there is a space in it. -/
def pathText (side : String) : String :=
  if ' ' ∈ (n.text side).toList then n.text side ++ "\t" else n.text side

end RepoName

/-- What a file holds. The last line may lack its line feed. -/
structure FileText where
  lines : List LineText
  isEnded : Bool := true

namespace FileText

/-- The lines as lines of a hunk, the last one with a note if its line feed is missing. -/
def writtenLines (kind : LineKind) (isEnded : Bool) : List LineText → List WrittenLine
  | [] => []
  | [l] => [{ kind, content := l, note :=
      if isEnded then none else some ⟨" No newline at end of file", by decide⟩ }]
  | l :: ls => { kind, content := l } :: writtenLines kind isEnded ls

/-- All lines in one hunk, if there are any. -/
def hunks (t : FileText) (kind : LineKind) (oldStart newStart : Nat) : List WrittenHunk :=
  if t.lines.isEmpty then [] else
    [{ oldStart, newStart
       lines := writtenLines kind t.isEnded t.lines
       omitsOld := true
       omitsNew := true
       heading := ⟨"", Text.isLine_empty⟩ }]

end FileText

/-- A change of the lines of a file. -/
structure TextEdit where
  index : LineText
  hunks : List WrittenHunk
  hunks_ne_nil : hunks ≠ []

inductive FileChange where
  | create (name : RepoName) (mode index : LineText) (content : FileText)
  | delete (name : RepoName) (mode index : LineText) (content : FileText)
  | modify (name : RepoName) (modes : Option (LineText × LineText)) (edit : TextEdit)
  | rename (old new : RepoName) (modes : Option (LineText × LineText)) (similarity : LineText)
    (edit : Option TextEdit)
  | changeMode (name : RepoName) (modes : LineText × LineText)

/-! Names in a text -/

namespace RepoName

/-- Every character of a name in a text is a printable one of ASCII. -/
def IsPrintable (c : Char) : Prop := 0x20 ≤ c.toNat ∧ c.toNat < 0x7F

instance (c : Char) : Decidable (IsPrintable c) := inferInstanceAs (Decidable (_ ∧ _))

/-- What holds of the first 256 numbers as bytes holds of every byte. -/
theorem forall_byte {P : UInt8 → Prop} (h : ∀ k < 256, P (UInt8.ofNat k)) (b : UInt8) : P b := by
  have hb := h b.toNat b.toNat_lt
  rwa [UInt8.ofNat_toNat] at hb

theorem isPrintable_of_mem_escape (b : UInt8) : ∀ c ∈ escape b, IsPrintable c :=
  Text.forall_mem_of_all <| forall_byte
    (P := fun b => ((escape b).all fun c => decide (IsPrintable c)) = true) (by decide +kernel) b

/-- A byte becomes a slash only if it is one. -/
theorem head?_escape {b : UInt8} (hb : b ≠ 0x2F) : escape b ≠ [] ∧ (escape b).head? ≠ some '/' :=
  forall_byte (P := fun b => b ≠ 0x2F → escape b ≠ [] ∧ (escape b).head? ≠ some '/')
    (by decide +kernel) b hb

theorem IsPrintable.isLineEnd {c : Char} (h : IsPrintable c) : Text.isLineEnd c = false := by
  rw [Bool.eq_false_iff]
  intro hend
  have hends : ∀ d ∈ ['\n', '\x0b', '\x0c', '\r', '\x1c', '\x1d', '\x1e', '\u0085', '\u2028',
      '\u2029'], ¬ IsPrintable d := Text.forall_mem_of_all (by decide)
  exact hends c (List.contains_iff_mem.1 hend) h

theorem IsPrintable.ne_tab {c : Char} (h : IsPrintable c) : c ≠ '\t' := by
  rintro rfl
  exact absurd h (by decide)

theorem isPrintable_escaped (n : RepoName) : ∀ c ∈ n.escaped.toList, IsPrintable c := by
  intro c hc
  rw [escaped, String.toList_ofList] at hc
  obtain ⟨b, -, hb⟩ := List.mem_flatMap.1 hc
  exact isPrintable_of_mem_escape b c hb

/-- The letters of the two sides, and no letter. -/
def sides : List String := ["", "a/", "b/"]

theorem isPrintable_text (n : RepoName) {side : String} (hside : side ∈ sides) :
    ∀ c ∈ (n.text side).toList, IsPrintable c := by
  have hletters : ∀ side ∈ sides, (side.toList.all fun c => decide (IsPrintable c)) = true := by
    decide
  have hside : ∀ c ∈ side.toList, IsPrintable c := Text.forall_mem_of_all (hletters side hside)
  have hquote : ∀ c ∈ "\"".toList, IsPrintable c := Text.forall_mem_of_all (by decide)
  rw [text]
  split
  · simp only [String.toList_append, List.forall_mem_append]
    exact ⟨hside, n.isPrintable_escaped⟩
  · simp only [String.toList_append, List.forall_mem_append]
    exact ⟨⟨hquote, hside, n.isPrintable_escaped⟩, hquote⟩

theorem isLine_text (n : RepoName) {side : String} (hside : side ∈ sides) :
    Text.IsLine (n.text side) := fun c hc => (n.isPrintable_text hside c hc).isLineEnd

theorem isLine_pathText (n : RepoName) {side : String} (hside : side ∈ sides) :
    Text.IsLine (n.pathText side) := by
  rw [pathText]
  split
  · exact Text.isLine_append.2 ⟨n.isLine_text hside, by decide⟩
  · exact n.isLine_text hside

/-- Names are relative, and escaping does not change that. -/
theorem head?_escaped (n : RepoName) :
    n.escaped.toList ≠ [] ∧ n.escaped.toList.head? ≠ some '/' := by
  obtain ⟨b, bs, hbytes⟩ := List.exists_cons_of_ne_nil n.ne_nil
  have hb : b ≠ 0x2F := by
    have hrelative := n.isRelative
    rw [hbytes] at hrelative
    exact fun hb => hrelative (congrArg some hb)
  obtain ⟨hne, hhead⟩ := head?_escape hb
  obtain ⟨d, ds, hescape⟩ := List.exists_cons_of_ne_nil hne
  rw [hescape] at hhead
  rw [escaped, String.toList_ofList, hbytes, List.flatMap_cons, hescape]
  exact ⟨List.cons_ne_nil _ _, hhead⟩

end RepoName

/-! What a change is and how it is written -/

namespace FileChange

def oldName : FileChange → RepoName
  | create name .. | delete name .. | modify name .. | changeMode name _ => name
  | rename old .. => old

def newName : FileChange → RepoName
  | create name .. | delete name .. | modify name .. | changeMode name _ => name
  | rename _ new .. => new

def isCreation : FileChange → Bool
  | create .. => true
  | _ => false

def isDeletion : FileChange → Bool
  | delete .. => true
  | _ => false

def hunks : FileChange → List WrittenHunk
  | create _ _ _ content => content.hunks .add 0 1
  | delete _ _ _ content => content.hunks .delete 1 0
  | modify _ _ edit => edit.hunks
  | rename _ _ _ _ edit => (edit.map (·.hunks)).getD []
  | changeMode .. => []

/-- Notes on the modes, if they change. -/
def modeNotes : Option (LineText × LineText) → List (GitNoteKind × LineText)
  | none => []
  | some (old, new) => [(.oldMode, old), (.newMode, new)]

def notes : FileChange → List (GitNoteKind × LineText)
  | create _ mode index _ => [(.newFile, mode), (.index, index)]
  | delete _ mode index _ => [(.deletedFile, mode), (.index, index)]
  | modify _ modes edit => modeNotes modes ++ [(.index, edit.index)]
  | rename old new modes similarity edit => modeNotes modes ++
      [(.similarity, similarity), (.renameFrom, ⟨old.text "", old.isLine_text (by decide)⟩),
        (.renameTo, ⟨new.text "", new.isLine_text (by decide)⟩)] ++
      (edit.map (.index, ·.index)).toList
  | changeMode _ modes => modeNotes (some modes)

variable (c : FileChange)

def title : String :=
  "diff --git " ++ (c.oldName.text "a/" ++ " " ++ c.newName.text "b/")

/-- The path of the old file, unless there is none. -/
def oldText : String := if c.isCreation then FilePatch.noFile else c.oldName.pathText "a/"

def newText : String := if c.isDeletion then FilePatch.noFile else c.newName.pathText "b/"

def textTexts : List String :=
  if c.hunks.isEmpty then []
  else ["--- " ++ c.oldText, "+++ " ++ c.newText] ++ c.hunks.flatMap (·.texts)

def texts : List String := c.title :: c.notes.map GitHeader.noteText ++ c.textTexts

end FileChange

namespace FileChange
variable (c : FileChange)

theorem isLine_title : Text.IsLine c.title := by
  simp only [title, Text.isLine_append]
  exact ⟨by decide, ⟨c.oldName.isLine_text (by decide), by decide⟩,
    c.newName.isLine_text (by decide)⟩

theorem isLine_oldText : Text.IsLine c.oldText := by
  rw [oldText]
  split
  · decide
  · exact c.oldName.isLine_pathText (by decide)

theorem isLine_newText : Text.IsLine c.newText := by
  rw [newText]
  split
  · decide
  · exact c.newName.isLine_pathText (by decide)

/-- No line of a written change is cut in two when the text is read. -/
theorem isLine_texts : ∀ t ∈ c.texts, Text.IsLine t := by
  intro t ht
  rw [texts, List.cons_append, List.mem_cons, List.mem_append] at ht
  rcases ht with rfl | ht | ht
  · exact c.isLine_title
  · obtain ⟨note, -, rfl⟩ := List.mem_map.1 ht
    exact GitHeader.isLine_noteText note
  · rw [textTexts] at ht
    split at ht
    · cases ht
    · simp only [List.cons_append, List.nil_append, List.mem_cons] at ht
      rcases ht with rfl | rfl | ht
      · exact Text.isLine_append.2 ⟨by decide, c.isLine_oldText⟩
      · exact Text.isLine_append.2 ⟨by decide, c.isLine_newText⟩
      · obtain ⟨h, -, ht⟩ := List.mem_flatMap.1 ht
        exact h.isLine_texts t ht

end FileChange
end PatchReview
