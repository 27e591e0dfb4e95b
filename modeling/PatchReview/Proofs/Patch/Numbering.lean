import Mathlib.Data.List.Forall2
import PatchReview.Proofs.Patch.HunkHead
import PatchReview.Proofs.Patch.Reading
import PatchReview.Proofs.Patch.Role

/-! The numbers of lines in a diff that is arbitrary text. The reader refuses it because of the
first line that starts like the head of a hunk and is none, and for nothing else. Otherwise every
head opens one hunk, and each line of a hunk has the number that follows from where the hunk starts
and from the lines of its side before it. -/
namespace PatchReview

namespace Hunk

/-- The lines that a hunk has of the old and of the new file. -/
def oldSize (h : Hunk) : Nat := h.lines.countP (·.kind.isOld)

def newSize (h : Hunk) : Nat := h.lines.countP (·.kind.isNew)

/-- Every line has a number for each side that it belongs to, and no other number. -/
def IsNumbered (h : Hunk) : Prop := ∀ (i : Nat) (l : PatchLine), h.lines[i]? = some l →
  l.oldNumber = (if l.kind.isOld then
      some (h.range.oldStart + (h.lines.take i).countP (·.kind.isOld)) else none) ∧
    l.newNumber = (if l.kind.isNew then
      some (h.range.newStart + (h.lines.take i).countP (·.kind.isNew)) else none)

/-- The hunk with one more line, which is numbered from the sizes so far. -/
def extend (h : Hunk) (kind : LineKind) (content : String) : Hunk :=
  { h with lines := h.lines ++ [⟨kind, content,
      if kind.isOld then some (h.range.oldStart + h.oldSize) else none,
      if kind.isNew then some (h.range.newStart + h.newSize) else none⟩] }

@[simp] theorem range_extend (h : Hunk) (kind : LineKind) (content : String) :
    (h.extend kind content).range = h.range := rfl

@[simp] theorem oldSize_extend (h : Hunk) (kind : LineKind) (content : String) :
    (h.extend kind content).oldSize = h.oldSize + if kind.isOld then 1 else 0 := by
  simp [oldSize, extend, List.countP_append, List.countP_singleton]

@[simp] theorem newSize_extend (h : Hunk) (kind : LineKind) (content : String) :
    (h.extend kind content).newSize = h.newSize + if kind.isNew then 1 else 0 := by
  simp [newSize, extend, List.countP_append, List.countP_singleton]

theorem isNumbered_nil (range : HunkRange) : IsNumbered ⟨range, []⟩ := by
  intro i l hl
  cases hl

theorem IsNumbered.extend {h : Hunk} (hn : h.IsNumbered) (kind : LineKind) (content : String) :
    (h.extend kind content).IsNumbered := by
  intro i l hl
  dsimp only [Hunk.extend] at hl ⊢
  rcases Nat.lt_or_ge i h.lines.length with hi | hi
  · rw [List.getElem?_append_left hi] at hl
    rw [List.take_append_of_le_length (Nat.le_of_lt hi)]
    exact hn i l hl
  · rw [List.getElem?_append_right hi, List.getElem?_singleton] at hl
    split at hl
    · next hlast =>
      obtain rfl := Nat.le_antisymm (Nat.le_of_sub_eq_zero hlast) hi
      obtain rfl := Option.some.inj hl
      rw [List.take_left]
      exact ⟨rfl, rfl⟩
    · cases hl

/-- Every added line has a lower number than those that are added behind it. -/
theorem IsNumbered.pairwise_addedLines {h : Hunk} (hn : h.IsNumbered) :
    ((h.lines.filterMap FilePatch.addedLine?).map (·.1)).Pairwise (· < ·) := by
  have hadded : ∀ {i : Nat} {l : PatchLine} {x : Nat × String}, h.lines[i]? = some l →
      FilePatch.addedLine? l = some x →
      l.kind.isNew = true ∧ x.1 = h.range.newStart + (h.lines.take i).countP (·.kind.isNew) := by
    intro i l x hl hx
    rw [FilePatch.addedLine?] at hx
    split at hx
    · next hkind =>
      have hnew : l.kind.isNew = true := by rw [hkind]; rfl
      rw [(hn i l hl).2, if_pos hnew] at hx
      cases hx
      exact ⟨hnew, rfl⟩
    · cases hx
  rw [List.pairwise_map, List.pairwise_filterMap, List.pairwise_iff_getElem]
  intro i j hi hj hij x hx y hy
  obtain ⟨hnew, hx⟩ := hadded (List.getElem?_eq_getElem hi) hx
  obtain ⟨-, hy⟩ := hadded (List.getElem?_eq_getElem hj) hy
  have hbefore : ((h.lines.take (i + 1)).countP (·.kind.isNew)) ≤
      (h.lines.take j).countP (·.kind.isNew) :=
    (List.take_sublist_take_left hij).countP_le
  rw [List.take_succ_eq_append_getElem hi, List.countP_append, List.countP_singleton,
    if_pos hnew] at hbefore
  omega

end Hunk

namespace OpenHunk

/-- The numbers of the next lines follow from the lines read. -/
structure IsCounted (h : OpenHunk) : Prop where
  old : h.oldNext = h.range.oldStart + h.close.oldSize
  new : h.newNext = h.range.newStart + h.close.newSize

theorem isCounted_nil (range : HunkRange) : IsCounted { range } := ⟨rfl, rfl⟩

variable {h : OpenHunk}

theorem IsCounted.close_push (hc : h.IsCounted) (kind : LineKind) (content : List Char) :
    (h.push kind content).close = h.close.extend kind (String.ofList content) := by
  rw [close, range_push, reversed_push, List.reverse_cons, hc.old, hc.new]
  rfl

theorem IsCounted.push (hc : h.IsCounted) (kind : LineKind) (content : List Char) :
    (h.push kind content).IsCounted := by
  constructor
  · rw [hc.close_push, oldNext_push, range_push, Hunk.oldSize_extend, hc.old, Nat.add_assoc]
  · rw [hc.close_push, newNext_push, range_push, Hunk.newSize_extend, hc.new, Nat.add_assoc]

end OpenHunk

namespace DiffReader

/-- The reader numbers lines rightly: those that it has read and the next one. -/
structure IsNumbered (r : DiffReader) : Prop where
  isTidy : r.IsTidy
  isCounted : ∀ h ∈ r.hunk, h.IsCounted
  hunks : ∀ h ∈ r.hunks, h.IsNumbered

theorem isNumbered_nil : IsNumbered {} :=
  ⟨isTidy_nil, fun _ => nofun, fun _ => nofun⟩

theorem IsNumbered.step {r r' : DiffReader} {line : List Char} (hr : r.IsNumbered)
    (h : r.step line = .ok r') : r'.IsNumbered := by
  obtain ⟨htidy, heffect⟩ := hunkStep_of_step hr.isTidy h
  cases heffect with
  | keep _ _ hopen hhunks =>
    exact ⟨htidy, fun o ho => hr.isCounted o (hopen o ho), by rw [hhunks]; exact hr.hunks⟩
  | head range _ _ hopen hhunks =>
    refine ⟨htidy, ?_, ?_⟩
    · rw [hopen]
      rintro _ ⟨⟩
      exact OpenHunk.isCounted_nil range
    · rw [hhunks, List.forall_mem_append, List.forall_mem_singleton]
      exact ⟨hr.hunks, Hunk.isNumbered_nil range⟩
  | body o kind content before _ _ hopen hopen' hhunks hhunks' =>
    have hc : o.IsCounted := hr.isCounted o hopen
    have hnumbered := hr.hunks
    rw [hhunks, List.forall_mem_append, List.forall_mem_singleton] at hnumbered
    refine ⟨htidy, ?_, ?_⟩
    · rw [hopen']
      rintro _ ⟨⟩
      exact hc.push kind content
    · rw [hhunks', List.forall_mem_append, List.forall_mem_singleton, hc.close_push]
      exact ⟨hnumbered.1, hnumbered.2.extend kind _⟩

theorem isNumbered_of_reads {ls : List (List Char)} {r : DiffReader}
    (h : ls.foldlM step {} = .ok r) : r.IsNumbered :=
  reads_induction (motive := fun _ r => r.IsNumbered) isNumbered_nil
    (fun _ _ _ _ _ hr hstep => hr.step hstep) h

/-- The ranges of the hunks are those that the heads tell. -/
theorem forall₂_ranges {ls : List (List Char)} {r : DiffReader} (h : ls.foldlM step {} = .ok r) :
    List.Forall₂ IsHunkHead (ls.filter ("@@".toList.isPrefixOf ·)) (r.hunks.map (·.range)) := by
  refine reads_induction (motive := fun ls r => List.Forall₂ IsHunkHead
    (ls.filter ("@@".toList.isPrefixOf ·)) (r.hunks.map (·.range))) .nil ?_ h
  intro ls r line r' hread hheads hstep
  rw [List.filter_append]
  cases (hunkStep_of_step (isNumbered_of_reads hread).isTidy hstep).2 with
  | keep hhead _ _ hhunks =>
    rw [← List.isPrefixOf_iff_prefix] at hhead
    rwa [hhunks, List.filter_cons_of_neg hhead, List.filter_nil, List.append_nil]
  | head range hhead hrange _ hhunks =>
    rw [← List.isPrefixOf_iff_prefix] at hhead
    rw [hhunks, List.filter_cons_of_pos hhead, List.filter_nil, List.map_append]
    exact List.rel_append hheads (.cons (HunkRange.ofHeader?_eq_some_iff.1 hrange) .nil)
  | body o kind content before hhead _ _ _ hhunks hhunks' =>
    rw [← List.isPrefixOf_iff_prefix] at hhead
    rw [List.filter_cons_of_neg hhead, List.filter_nil, List.append_nil]
    rw [hhunks, List.map_append] at hheads
    rw [hhunks', List.map_append]
    simpa only [List.map_singleton, OpenHunk.close, OpenHunk.range_push] using hheads

/-! Refusals -/

/-- A line that starts like the head of a hunk and is none. -/
def IsBadHead (line : List Char) : Prop := "@@".toList <+: line ∧ ¬ ∃ range, IsHunkHead line range

/-- Whatever was read before, such a line is refused, and no other line is. -/
theorem step_eq_error_iff {r : DiffReader} {line : List Char} {e : BadHunkHeader} :
    r.step line = .error e ↔ IsBadHead line ∧ e = ⟨String.ofList line⟩ := by
  have hbad : IsBadHead line ↔ r.role line = .hunkHead ∧ HunkRange.ofHeader? line = none := by
    rw [IsBadHead, role_eq_hunkHead_iff, Option.eq_none_iff_forall_ne_some]
    simp only [ne_eq, HunkRange.ofHeader?_eq_some_iff, not_exists]
  rw [hbad, step_eq_perform]
  cases r.role line with
  | hunkHead =>
    rw [perform]
    cases HunkRange.ofHeader? line with
    | none => simp [eq_comm]
    | some range => simp
  | title => simp [perform]
  | oldPath => simp [perform]
  | newPath => simp [perform]
  | binaryNote => simp [perform]
  | body kind content => simp [perform]
  | other => simp [perform]

/-- The first line that is refused ends the reading. -/
theorem foldlM_step_eq_error_iff {r : DiffReader} {ls : List (List Char)} {e : BadHunkHeader} :
    ls.foldlM step r = .error e ↔ ∃ before line after, ls = before ++ line :: after ∧
      IsBadHead line ∧ (∀ l ∈ before, ¬ IsBadHead l) ∧ e = ⟨String.ofList line⟩ := by
  induction ls generalizing r with
  | nil => simp [pure, Except.pure]
  | cons l ls ih =>
    rw [List.foldlM_cons]
    by_cases hl : IsBadHead l
    · rw [(step_eq_error_iff (r := r)).2 ⟨hl, rfl⟩]
      constructor
      · rintro ⟨⟩
        exact ⟨[], l, ls, rfl, hl, fun _ => nofun, rfl⟩
      · rintro ⟨before, line, after, hsplit, -, hbefore, rfl⟩
        cases before with
        | nil =>
          obtain ⟨rfl, -⟩ := List.cons.inj hsplit
          rfl
        | cons l' before =>
          obtain ⟨rfl, -⟩ := List.cons.inj hsplit
          exact absurd hl (hbefore l List.mem_cons_self)
    · cases hstep : r.step l with
      | error e' => exact absurd (step_eq_error_iff.1 hstep).1 hl
      | ok r' =>
        refine (ih (r := r')).trans ⟨?_, ?_⟩
        · rintro ⟨before, line, after, rfl, hline, hbefore, rfl⟩
          exact ⟨l :: before, line, after, rfl, hline, List.forall_mem_cons.2 ⟨hl, hbefore⟩, rfl⟩
        · rintro ⟨before, line, after, hsplit, hline, hbefore, rfl⟩
          cases before with
          | nil =>
            obtain ⟨rfl, -⟩ := List.cons.inj hsplit
            exact absurd hline hl
          | cons l' before =>
            obtain ⟨rfl, rfl⟩ := List.cons.inj hsplit
            exact ⟨before, line, after, rfl, hline, (List.forall_mem_cons.1 hbefore).2, rfl⟩

end DiffReader

namespace FilePatch

theorem ofLines?_eq_ok_iff {ls : List (List Char)} {ps : List FilePatch} :
    ofLines? ls = .ok ps ↔ ∃ r, ls.foldlM DiffReader.step {} = .ok r ∧ r.patches = ps :=
  map_eq_ok

theorem ofLines?_eq_error_iff {ls : List (List Char)} {e : BadHunkHeader} :
    ofLines? ls = .error e ↔ ls.foldlM DiffReader.step {} = .error e := by
  rw [ofLines?]
  cases ls.foldlM DiffReader.step {} <;> simp [Except.map]

/-- An arbitrary text is refused because of its first line that starts like the head of a hunk and
is none, and only then. Otherwise its hunks are those that its heads open, in their order, and their
lines are numbered from the starts that the heads tell. -/
theorem ofDiff?_numbers (text : String) :
    (∀ e, ofDiff? text = .error e ↔ ∃ before line after,
      Text.lines text.toList = before ++ line :: after ∧
        ("@@".toList <+: line ∧ ¬ ∃ range, IsHunkHead line range) ∧
        (∀ l ∈ before, "@@".toList <+: l → ∃ range, IsHunkHead l range) ∧
        e = ⟨String.ofList line⟩ ∧ e.message = "Invalid hunk header: " ++ String.ofList line) ∧
    ∀ ps, ofDiff? text = .ok ps →
      List.Forall₂ (fun line h => IsHunkHead line h.range)
        ((Text.lines text.toList).filter ("@@".toList.isPrefixOf ·)) (ps.flatMap (·.hunks)) ∧
      ∀ h ∈ ps.flatMap (·.hunks), h.IsNumbered ∧
        ((h.lines.filterMap addedLine?).map (·.1)).Pairwise (· < ·) := by
  constructor
  · intro e
    rw [ofDiff?, ofLines?_eq_error_iff, DiffReader.foldlM_step_eq_error_iff]
    constructor
    · rintro ⟨before, line, after, hlines, hline, hbefore, rfl⟩
      refine ⟨before, line, after, hlines, hline, fun l hl hhead => ?_, rfl, rfl⟩
      exact not_not.1 fun hnone => hbefore l hl ⟨hhead, hnone⟩
    · rintro ⟨before, line, after, hlines, hline, hbefore, rfl, -⟩
      exact ⟨before, line, after, hlines, hline, fun l hl hbad => hbad.2 (hbefore l hl hbad.1), rfl⟩
  · intro ps hps
    obtain ⟨r, hread, rfl⟩ := ofLines?_eq_ok_iff.1 hps
    refine ⟨List.forall₂_map_right_iff.1 (DiffReader.forall₂_ranges hread), ?_⟩
    intro h hh
    have hn : h.IsNumbered := (DiffReader.isNumbered_of_reads hread).hunks h hh
    exact ⟨hn, hn.pairwise_addedLines⟩

example : ofDiff? "@@ -3 +٤,0 @@\n\n+a\n@@\n@@ -1" = .error ⟨"@@"⟩ := by rfl

example : (ofDiff? "@@ -3 +٤,0 @@\n+a\n-b\n+c").map (·.map (·.addedLines)) =
    .ok [[(4, "a"), (5, "c")]] := by rfl

end FilePatch
end PatchReview
