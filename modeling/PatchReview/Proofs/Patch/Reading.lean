import PatchReview.Proofs.Patch.Header

/-! Reading written patches line by line. While a hunk is open, the numbers of the next lines and
the range of the hunk tell how many lines are missing. As long as one is missing, a line of the
body is taken as such whatever it looks like; once none is, the next header is recognised. -/
namespace PatchReview

namespace OpenHunk

def pushLine (h : OpenHunk) (l : WrittenLine) : OpenHunk := h.push l.kind l.content.1.toList

/-- The lines `ls` fill what the range still allows for. -/
structure Awaits (h : OpenHunk) (ls : List WrittenLine) : Prop where
  old : h.oldNext + WrittenLine.oldCount ls = h.range.oldStart + h.range.oldCount
  new : h.newNext + WrittenLine.newCount ls = h.range.newStart + h.range.newCount

section Push
variable (h : OpenHunk) (kind : LineKind) (content : List Char)

@[simp] theorem range_push : (h.push kind content).range = h.range := by cases kind <;> rfl

@[simp] theorem oldNext_push :
    (h.push kind content).oldNext = h.oldNext + if kind.isOld then 1 else 0 := by
  cases kind <;> rfl

@[simp] theorem newNext_push :
    (h.push kind content).newNext = h.newNext + if kind.isNew then 1 else 0 := by
  cases kind <;> rfl

theorem reversed_push : (h.push kind content).reversed =
    ⟨kind, String.ofList content, if kind.isOld then some h.oldNext else none,
      if kind.isNew then some h.newNext else none⟩ :: h.reversed := by
  cases kind <;> rfl

end Push

@[simp] theorem range_pushLine (h : OpenHunk) (l : WrittenLine) :
    (h.pushLine l).range = h.range :=
  h.range_push _ _

@[simp] theorem oldNext_pushLine (h : OpenHunk) (l : WrittenLine) :
    (h.pushLine l).oldNext = h.oldNext + if l.kind.isOld then 1 else 0 :=
  h.oldNext_push _ _

@[simp] theorem newNext_pushLine (h : OpenHunk) (l : WrittenLine) :
    (h.pushLine l).newNext = h.newNext + if l.kind.isNew then 1 else 0 :=
  h.newNext_push _ _

theorem reversed_pushLine (h : OpenHunk) (l : WrittenLine) :
    (h.pushLine l).reversed = ⟨l.kind, l.content.1, if l.kind.isOld then some h.oldNext else none,
      if l.kind.isNew then some h.newNext else none⟩ :: h.reversed := by
  rw [pushLine, reversed_push, String.ofList_toList]

theorem Awaits.isDone {h : OpenHunk} (ha : h.Awaits []) : h.isDone = true := by
  rw [OpenHunk.isDone, Bool.and_eq_true, decide_eq_true_eq, decide_eq_true_eq]
  exact ⟨Nat.le_of_eq ha.old.symm, Nat.le_of_eq ha.new.symm⟩

/-- Every line counts for one side at least. -/
theorem Awaits.not_isDone {h : OpenHunk} {l : WrittenLine} {ls : List WrittenLine}
    (ha : h.Awaits (l :: ls)) : h.isDone = false := by
  obtain ⟨hold, hnew⟩ := ha
  rw [WrittenLine.oldCount, List.countP_cons] at hold
  rw [WrittenLine.newCount, List.countP_cons] at hnew
  rw [OpenHunk.isDone, Bool.and_eq_false_iff, decide_eq_false_iff_not, decide_eq_false_iff_not]
  have hside : l.kind.isOld = true ∨ l.kind.isNew = true := by cases l.kind <;> decide
  rcases hside with hside | hside
  · rw [if_pos hside] at hold
    exact .inl (by omega)
  · rw [if_pos hside] at hnew
    exact .inr (by omega)

theorem Awaits.pushLine {h : OpenHunk} {l : WrittenLine} {ls : List WrittenLine}
    (ha : h.Awaits (l :: ls)) : (h.pushLine l).Awaits ls := by
  obtain ⟨hold, hnew⟩ := ha
  rw [WrittenLine.oldCount, List.countP_cons, Nat.add_comm (List.countP _ ls),
    ← Nat.add_assoc] at hold
  rw [WrittenLine.newCount, List.countP_cons, Nat.add_comm (List.countP _ ls),
    ← Nat.add_assoc] at hnew
  exact ⟨by rw [oldNext_pushLine, range_pushLine]; exact hold,
    by rw [newNext_pushLine, range_pushLine]; exact hnew⟩

/-- The lines get the numbers that they were written with. -/
theorem close_foldl_pushLine (h : OpenHunk) (ls : List WrittenLine) :
    (ls.foldl OpenHunk.pushLine h).close =
      ⟨h.range, h.reversed.reverse ++ WrittenLine.number h.oldNext h.newNext ls⟩ := by
  induction ls generalizing h with
  | nil => simp [close, WrittenLine.number]
  | cons l ls ih =>
      rw [List.foldl_cons, ih, range_pushLine, oldNext_pushLine, newNext_pushLine,
        reversed_pushLine, List.reverse_cons, List.append_assoc, List.singleton_append,
        WrittenLine.number]

end OpenHunk

namespace DiffReader

/-- Reads lines that are given as texts. -/
def read (r : DiffReader) (ts : List String) : Except BadHunkHeader DiffReader :=
  ts.foldlM (fun r t => r.step t.toList) r

@[simp] theorem read_nil (r : DiffReader) : r.read [] = .ok r := rfl

theorem read_cons {r r' : DiffReader} {t : String} (h : r.step t.toList = .ok r')
    (ts : List String) : r.read (t :: ts) = r'.read ts := by
  rw [read, List.foldlM_cons, h]
  rfl

theorem read_append {r r' : DiffReader} {ts : List String} (h : r.read ts = .ok r')
    (us : List String) : r.read (ts ++ us) = r'.read us := by
  rw [read, List.foldlM_append]
  rw [read] at h
  rw [h]
  rfl

theorem isPrefixOf_eq_false {c : Char} {s line : List Char} (h : line.head? ≠ some c) :
    (c :: s).isPrefixOf line = false := by
  cases line with
  | nil => rfl
  | cons d line =>
      have hcd : (c == d) = false := beq_eq_false_iff_ne.2 fun hcd => h (congrArg some hcd.symm)
      rw [List.isPrefixOf, hcd, Bool.false_and]

/-- What starts like no header is left to the open hunk. -/
theorem step_body {r : DiffReader} {h : OpenHunk} (hr : r.hunk = some h) {line : List Char}
    (hgit : line.head? ≠ some 'd') (hbinary : line.head? ≠ some 'B')
    (hhunk : line.head? ≠ some '@')
    (hold : ("--- ".toList.isPrefixOf line && r.expectsHeader) = false) :
    r.step line = .ok (r.readBody h line) := by
  have hgit' : "diff --git ".toList.isPrefixOf line = false := isPrefixOf_eq_false hgit
  have hbinary' : "Binary files ".toList.isPrefixOf line = false := isPrefixOf_eq_false hbinary
  have hhunk' : "@@".toList.isPrefixOf line = false := isPrefixOf_eq_false hhunk
  simp only [step, hgit', hold, hbinary', hhunk', hr, Option.isNone_some, Bool.and_false,
    Bool.false_and, Bool.false_eq_true, if_false]

/-- A line of an open hunk belongs to it as long as one is missing: a deleted line that looks like
the start of a header, too. -/
theorem step_line {r : DiffReader} {h : OpenHunk} {l : WrittenLine} {ls : List WrittenLine}
    (hr : r.hunk = some h) (ha : h.Awaits (l :: ls)) :
    r.step l.text.toList = .ok { r with hunk := some (h.pushLine l) } := by
  have hold : ("--- ".toList.isPrefixOf l.text.toList && r.expectsHeader) = false := by
    rw [expectsHeader, hr, Option.all_some, ha.not_isDone, Bool.and_false]
  by_cases hb : l.isBare ∧ l.kind = .context ∧ l.content.1 = ""
  · have htext : l.text.toList = [] := by rw [WrittenLine.text, if_pos hb, String.toList_empty]
    rw [htext] at hold ⊢
    rw [step_body hr (by simp) (by simp) (by simp) hold, OpenHunk.pushLine, hb.2.1, hb.2.2]
    simp only [readBody, ha.not_isDone, Bool.false_eq_true, if_false, String.toList_empty]
  · have htext : l.text.toList = l.kind.mark.toList ++ l.content.1.toList := by
      rw [WrittenLine.text, if_neg hb, String.toList_append]
    have hhead : ∀ c ∈ ['d', 'B', '@'], (l.kind.mark.toList ++ l.content.1.toList).head? ≠ some c := by
      cases l.kind <;> simp [LineKind.mark]
    rw [htext] at hold ⊢
    rw [step_body hr (hhead 'd' (by simp)) (hhead 'B' (by simp)) (hhead '@' (by simp)) hold,
      OpenHunk.pushLine]
    cases l.kind <;> rfl

/-- Notes within a hunk are passed over. -/
theorem step_note {r : DiffReader} {h : OpenHunk} (hr : r.hunk = some h) (s : List Char) :
    r.step ('\\' :: s) = .ok r := by
  have hold : "--- ".toList.isPrefixOf ('\\' :: s) = false :=
    isPrefixOf_eq_false (c := '-') (by simp)
  rw [step_body hr (by simp) (by simp) (by simp) (by rw [hold, Bool.false_and])]
  rfl

theorem read_line {r : DiffReader} {h : OpenHunk} {l : WrittenLine} {ls : List WrittenLine}
    (hr : r.hunk = some h) (ha : h.Awaits (l :: ls)) :
    r.read l.texts = .ok { r with hunk := some (h.pushLine l) } := by
  rw [WrittenLine.texts, read_cons (step_line hr ha)]
  cases l.note with
  | none => rfl
  | some s =>
      have hs : ("\\" ++ s.1).toList = '\\' :: s.1.toList := String.toList_append
      exact read_cons (hs ▸ step_note rfl s.1.toList) []

/-- All lines of a hunk end up in it, and then it is complete. -/
theorem read_lines {r : DiffReader} {h : OpenHunk} {ls : List WrittenLine}
    (hr : r.hunk = some h) (ha : h.Awaits ls) :
    r.read (ls.flatMap (·.texts)) = .ok { r with hunk := some (ls.foldl OpenHunk.pushLine h) } ∧
      (ls.foldl OpenHunk.pushLine h).isDone = true := by
  induction ls generalizing r h with
  | nil => exact ⟨by rw [List.foldl_nil, ← hr]; rfl, ha.isDone⟩
  | cons l ls ih =>
      obtain ⟨hread, hdone⟩ := ih (r := { r with hunk := some (h.pushLine l) }) rfl ha.pushLine
      rw [List.flatMap_cons, List.foldl_cons, read_append (read_line hr ha), hread]
      exact ⟨rfl, hdone⟩

/-- The head of a hunk closes the hunk before it. -/
theorem step_header {r : DiffReader} (hr : r.patch.isSome = true) (h : WrittenHunk) :
    r.step h.header.toList =
      .ok { done := r.done, patch := r.current, hunk := some { range := h.range } } := by
  have htext : h.header.toList = '@' :: '@' :: (h.header.toList.drop 2) := by
    simp [WrittenHunk.header]
  have hpatch : r.ensurePatch = r := by
    rw [ensurePatch, ← Option.not_isSome, hr, Bool.not_true, if_neg Bool.false_ne_true]
  have hgit : "diff --git ".toList.isPrefixOf h.header.toList = false :=
    isPrefixOf_eq_false (c := 'd') (by rw [htext]; simp)
  have hold : "--- ".toList.isPrefixOf h.header.toList = false :=
    isPrefixOf_eq_false (c := '-') (by rw [htext]; simp)
  have hnew : "+++ ".toList.isPrefixOf h.header.toList = false :=
    isPrefixOf_eq_false (c := '+') (by rw [htext]; simp)
  have hbinary : "Binary files ".toList.isPrefixOf h.header.toList = false :=
    isPrefixOf_eq_false (c := 'B') (by rw [htext]; simp)
  have hhunk : "@@".toList.isPrefixOf h.header.toList = true := by rw [htext]; rfl
  simp only [step, hgit, hold, hnew, hbinary, hhunk, HunkRange.ofHeader?_header, hpatch,
    Bool.false_and, Bool.false_eq_true, if_false, if_true, closeHunk]

theorem read_hunk {r : DiffReader} {p : FilePatch} (hr : r.current = some p) (h : WrittenHunk) :
    ∃ r', r.read h.texts = .ok r' ∧ r'.done = r.done ∧
      r'.current = some { p with hunks := p.hunks ++ [h.hunk] } ∧ r'.expectsHeader = true := by
  have hpatch : r.patch.isSome = true := by
    cases hp : r.patch with
    | none => simp [current, hp] at hr
    | some q => rfl
  let r₀ : DiffReader := { done := r.done, patch := some p, hunk := some { range := h.range } }
  have hawaits : OpenHunk.Awaits { range := h.range } h.lines := ⟨rfl, rfl⟩
  obtain ⟨hread, hdone⟩ := read_lines (r := r₀) rfl hawaits
  refine ⟨{ r₀ with hunk := some (h.lines.foldl OpenHunk.pushLine { range := h.range }) },
    ?_, rfl, ?_, hdone⟩
  · rw [WrittenHunk.texts, read_cons (step_header hpatch h), hr, hread]
  · change some { p with hunks := p.hunks ++ [OpenHunk.close _] } = _
    rw [OpenHunk.close_foldl_pushLine]
    rfl

/-- Hunks are put behind those that the patch has. -/
theorem read_hunks {r : DiffReader} {p : FilePatch} (hr : r.current = some p)
    (hexp : r.expectsHeader = true) (hs : List WrittenHunk) :
    ∃ r', r.read (hs.flatMap (·.texts)) = .ok r' ∧ r'.done = r.done ∧
      r'.current = some { p with hunks := p.hunks ++ hs.map (·.hunk) } ∧
      r'.expectsHeader = true := by
  induction hs generalizing r p with
  | nil => exact ⟨r, rfl, rfl, by rw [hr, List.map_nil, List.append_nil], hexp⟩
  | cons h hs ih =>
      obtain ⟨r₁, hread₁, hdone₁, hcurrent₁, hexp₁⟩ := read_hunk hr h
      obtain ⟨r₂, hread₂, hdone₂, hcurrent₂, hexp₂⟩ := ih hcurrent₁ hexp₁
      refine ⟨r₂, ?_, hdone₂.trans hdone₁, ?_, hexp₂⟩
      · rw [List.flatMap_cons, read_append hread₁, hread₂]
      · rw [hcurrent₂, List.map_cons, List.append_assoc, List.singleton_append]

end DiffReader

/-- What is read from the lines of a text is what is read from the text. -/
theorem FilePatch.ofDiff?_of_read {text : String} {ts : List String} {r : DiffReader}
    (hlines : Text.lines text.toList = ts.map String.toList)
    (hread : ({} : DiffReader).read ts = .ok r) : ofDiff? text = .ok r.patches := by
  rw [DiffReader.read] at hread
  rw [ofDiff?, hlines, ofLines?, List.foldlM_map, hread]
  rfl

end PatchReview
