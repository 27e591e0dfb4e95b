import PatchReview.Proofs.Finding.Stats
import PatchReview.Proofs.Text.Lines
import PatchReview.Review.Summary

/-! The lines of a summary. Above the closing words stand a heading, the lines that count something,
and a line on the mean confidence or on the absence of findings. Each line begins with a sign of its
own, so a line tells what it counts. -/
namespace PatchReview

theorem Text.not_mem_of_isLine {s : String} (h : IsLine s) : '\n' ∉ s.toList := by
  intro hmem
  exact absurd (h '\n' hmem) (by decide)

theorem Text.isLine_toString_int (n : Int) : IsLine (toString n) := by
  cases n with
  | ofNat n => exact isLine_toString n
  | negSucc n => exact isLine_append.2 ⟨by decide, isLine_toString n.succ⟩

namespace Summary

/-- What the lines of a summary count. -/
inductive Quantity where
  | findings
  | bugs
  | refactors
  | suggestions
  | critical
deriving DecidableEq

namespace Quantity

def before : Quantity → String
  | findings => "Found "
  | bugs => "🔴 **"
  | refactors => "🟡 **"
  | suggestions => "🔵 **"
  | critical => "⚠️ "

def after : Quantity → String
  | findings => " issue(s):"
  | bugs => " Bugs** - Must fix before merge"
  | refactors => " Refactors** - Should fix for quality"
  | suggestions => " Suggestions** - Nice to have"
  | critical => " critical issue(s)"

/-- The line that says that there are `n`. -/
def line (q : Quantity) (n : Nat) : String := q.before ++ toString n ++ q.after

def number (stats : FindingStats) : Quantity → Nat
  | findings => stats.total
  | bugs => stats.bugs
  | refactors => stats.refactors
  | suggestions => stats.suggestions
  | critical => stats.critical

/-- The sign that the line begins with. -/
def sign : Quantity → Char
  | findings => 'F'
  | bugs => '🔴'
  | refactors => '🟡'
  | suggestions => '🔵'
  | critical => '⚠'

theorem sign_inj {p q : Quantity} (h : p.sign = q.sign) : p = q := by
  revert h
  cases p <;> cases q <;> decide

theorem head?_line (q : Quantity) (n : Nat) : (q.line n).toList.head? = some q.sign := by
  cases q <;> simp [line, before, sign]

theorem line_inj {p q : Quantity} {m n : Nat} : p.line m = q.line n ↔ p = q ∧ m = n := by
  constructor
  · intro h
    have hsign : p.sign = q.sign := by
      rw [← Option.some.injEq, ← head?_line p m, ← head?_line q n, h]
    obtain rfl := sign_inj hsign
    rw [line, line, String.append_left_inj, String.append_right_inj] at h
    have hdigits : Nat.toDigits 10 m = Nat.toDigits 10 n := by
      rw [← Nat.toList_repr, ← Nat.toList_repr, ← Nat.toString_eq_repr, ← Nat.toString_eq_repr, h]
    have hvalue := congrArg (Nat.ofDigitChars 10 · 0) hdigits
    simp only [Nat.ofDigitChars_ten_toDigits] at hvalue
    exact ⟨rfl, hvalue⟩
  · rintro ⟨rfl, rfl⟩
    rfl

theorem isLine_line (q : Quantity) (n : Nat) : Text.IsLine (q.line n) := by
  refine Text.isLine_append.2 ⟨Text.isLine_append.2 ⟨?_, Text.isLine_toString n⟩, ?_⟩
  · cases q <;> decide
  · cases q <;> decide

end Quantity

def heading : String := "## Code Review Summary"

def noIssues : String := "✅ No issues found. Code looks good!"

def averageLine (findings : List Finding) : String :=
  "📊 Average confidence: " ++ toString (averageConfidence findings) ++ "%"

/-- The words that a summary ends with. -/
def closing (tone : String) : String := if tone.isEmpty then defaultTone else tone

section Lines
variable (findings : List Finding) (stats : FindingStats)

/-- The line that counts something, if there is something to count. -/
def countLines (q : Quantity) : List String :=
  if q.number stats = 0 then [] else [q.line (q.number stats)]

/-- The lines above the closing words, for findings that are there. -/
def numberLines : List String :=
  [Quantity.findings.line stats.total, ""] ++ countLines stats .bugs ++
    countLines stats .refactors ++ countLines stats .suggestions ++ [""] ++
    countLines stats .critical ++ ["", averageLine findings]

/-- The lines above the closing words. -/
def linesAbove : List String :=
  [heading, ""] ++ (if findings.isEmpty then [noIssues] else numberLines findings stats) ++ [""]

theorem countLine_eq (q : Quantity) :
    countLine (q.number stats) q.before q.after = Text.unlines (countLines stats q) := by
  rw [countLine, countLines]
  by_cases hn : q.number stats = 0
  · rw [if_pos hn, if_pos hn]
    rfl
  · rw [if_neg hn, if_neg hn]
    simp [Text.unlines, Quantity.line]

theorem unlines_empty : Text.unlines [""] = "\n" := by decide

theorem body_eq : body findings stats =
    Text.unlines (if findings.isEmpty then [noIssues] else numberLines findings stats) := by
  unfold body
  by_cases hempty : findings.isEmpty = true
  · rw [if_pos hempty, if_pos hempty]
    decide
  · refine (if_neg hempty).trans ?_
    rw [if_neg hempty, ← String.toList_inj]
    have hcount := countLine_eq stats
    unfold numberLines averageLine
    simp only [Text.unlines_append, Text.unlines_cons, Text.unlines_nil, ← hcount, Quantity.number,
      Quantity.line, Quantity.before, Quantity.after]
    simp

theorem text_eq (tone : String) :
    text findings stats tone = Text.unlines (linesAbove findings stats) ++ closing tone := by
  have hheading : "## Code Review Summary\n\n" = Text.unlines [heading, ""] := by decide
  unfold text
  rw [body_eq, hheading, linesAbove, Text.unlines_append, Text.unlines_append, unlines_empty]
  rfl

end Lines

section Membership
variable {findings : List Finding} {stats : FindingStats} {q : Quantity} {n : Nat}

theorem line_ne_of_head? {s : String} (h : ∀ p : Quantity, s.toList.head? ≠ some p.sign)
    (q : Quantity) (n : Nat) : q.line n ≠ s := by
  rintro rfl
  exact h q (q.head?_line n)

theorem line_ne_heading (q : Quantity) (n : Nat) : q.line n ≠ heading := by
  refine line_ne_of_head? ?_ q n
  intro p
  cases p <;> decide

theorem line_ne_empty (q : Quantity) (n : Nat) : q.line n ≠ "" := by
  refine line_ne_of_head? ?_ q n
  intro p
  cases p <;> decide

theorem line_ne_noIssues (q : Quantity) (n : Nat) : q.line n ≠ noIssues := by
  refine line_ne_of_head? ?_ q n
  intro p
  cases p <;> decide

theorem head?_averageLine (findings : List Finding) :
    (averageLine findings).toList.head? = some '📊' := by
  unfold averageLine
  simp

theorem line_ne_averageLine (findings : List Finding) (q : Quantity) (n : Nat) :
    q.line n ≠ averageLine findings := by
  refine line_ne_of_head? ?_ q n
  rw [head?_averageLine]
  intro p
  cases p <;> decide

theorem line_mem_countLines {p : Quantity} :
    q.line n ∈ countLines stats p ↔ q = p ∧ n ≠ 0 ∧ n = p.number stats := by
  rw [countLines]
  by_cases hzero : p.number stats = 0
  · rw [if_pos hzero, hzero]
    refine iff_of_false List.not_mem_nil ?_
    rintro ⟨-, hne, heq⟩
    exact hne heq
  · rw [if_neg hzero, List.mem_singleton, Quantity.line_inj]
    constructor
    · rintro ⟨rfl, rfl⟩
      exact ⟨rfl, hzero, rfl⟩
    · rintro ⟨rfl, -, rfl⟩
      exact ⟨rfl, rfl⟩

theorem line_mem_numberLines (htotal : stats.total ≠ 0) :
    q.line n ∈ numberLines findings stats ↔ n ≠ 0 ∧ n = q.number stats := by
  have hfirst : q.line n = Quantity.findings.line stats.total ↔
      q = .findings ∧ n ≠ 0 ∧ n = stats.total := by
    rw [Quantity.line_inj]
    constructor
    · rintro ⟨rfl, rfl⟩
      exact ⟨rfl, htotal, rfl⟩
    · rintro ⟨rfl, -, rfl⟩
      exact ⟨rfl, rfl⟩
  unfold numberLines
  simp only [List.mem_append, List.mem_cons, List.not_mem_nil, or_false, line_ne_empty,
    line_ne_averageLine, line_mem_countLines, hfirst]
  cases q <;> simp [Quantity.number]

/-- A line that counts something is there exactly where it counts right. -/
theorem line_mem_linesAbove : q.line n ∈ linesAbove findings (.ofFindings findings) ↔
    n ≠ 0 ∧ n = q.number (.ofFindings findings) := by
  unfold linesAbove
  simp only [List.mem_append, List.mem_cons, List.not_mem_nil, or_false, line_ne_heading,
    line_ne_empty, false_or]
  by_cases hempty : findings.isEmpty = true
  · rw [if_pos hempty, List.mem_singleton, List.isEmpty_iff.1 hempty]
    refine iff_of_false (line_ne_noIssues q n) ?_
    rintro ⟨hne, heq⟩
    refine hne (heq.trans ?_)
    cases q <;> rfl
  · rw [if_neg hempty]
    refine line_mem_numberLines ?_
    rwa [List.isEmpty_iff_length_eq_zero] at hempty

theorem noIssues_mem_linesAbove : noIssues ∈ linesAbove findings stats ↔ findings = [] := by
  have hheading : noIssues ≠ heading := by decide
  have hblank : noIssues ≠ "" := by decide
  unfold linesAbove
  simp only [List.mem_append, List.mem_cons, List.not_mem_nil, or_false, hheading, hblank, false_or]
  by_cases hempty : findings.isEmpty = true
  · rw [if_pos hempty]
    exact iff_of_true (List.mem_singleton.2 rfl) (List.isEmpty_iff.1 hempty)
  · rw [if_neg hempty]
    refine iff_of_false ?_ fun h => hempty (List.isEmpty_iff.2 h)
    have haverage : noIssues ≠ averageLine findings := by
      intro h
      have hhead := head?_averageLine findings
      rw [← h] at hhead
      revert hhead
      decide
    have hcount : ∀ p : Quantity, noIssues ∉ countLines stats p := by
      intro p hmem
      rw [countLines] at hmem
      split at hmem
      · exact List.not_mem_nil hmem
      · exact line_ne_noIssues _ _ (List.mem_singleton.1 hmem).symm
    unfold numberLines
    simp only [List.mem_append, List.mem_cons, List.not_mem_nil, or_false, hblank, haverage, hcount,
      (line_ne_noIssues _ _).symm, not_false_eq_true]

theorem isLine_countLines {p : Quantity} {l : String} (h : l ∈ countLines stats p) :
    Text.IsLine l := by
  rw [countLines] at h
  split at h
  · exact absurd h List.not_mem_nil
  · rw [List.mem_singleton.1 h]
    exact p.isLine_line _

theorem isLine_averageLine (findings : List Finding) : Text.IsLine (averageLine findings) := by
  unfold averageLine
  refine Text.isLine_append.2 ⟨Text.isLine_append.2 ⟨by decide, ?_⟩, by decide⟩
  exact Text.isLine_toString_int _

theorem isLine_linesAbove {l : String} (h : l ∈ linesAbove findings stats) : Text.IsLine l := by
  have hblank : Text.IsLine "" := by decide
  have hheading : Text.IsLine heading := by decide
  have hnone : Text.IsLine noIssues := by decide
  unfold linesAbove at h
  simp only [List.mem_append, List.mem_cons, List.not_mem_nil, or_false] at h
  rcases h with ((rfl | rfl) | h) | rfl
  · exact hheading
  · exact hblank
  · split at h
    · rw [List.mem_singleton.1 h]
      exact hnone
    · unfold numberLines at h
      simp only [List.mem_append, List.mem_cons, List.not_mem_nil, or_false] at h
      rcases h with (((((((rfl | rfl) | h) | h) | h) | rfl) | h) | rfl | rfl)
      · exact Quantity.isLine_line _ _
      · exact hblank
      · exact isLine_countLines h
      · exact isLine_countLines h
      · exact isLine_countLines h
      · exact hblank
      · exact isLine_countLines h
      · exact hblank
      · exact isLine_averageLine findings
  · exact hblank

/-- The lines of a summary are those above its closing words and those of the closing words. -/
theorem splitAt_text (findings : List Finding) (stats : FindingStats) (tone : String) :
    Text.splitAt '\n' (text findings stats tone).toList =
      (linesAbove findings stats).map String.toList ++
        Text.splitAt '\n' (closing tone).toList := by
  rw [text_eq, Text.splitAt_unlines_append]
  exact fun l hl => Text.not_mem_of_isLine (isLine_linesAbove hl)

end Membership
end Summary
end PatchReview
