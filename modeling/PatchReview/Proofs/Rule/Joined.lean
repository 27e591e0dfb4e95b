import Mathlib.Data.List.Nodup
import PatchReview.Proofs.Rule.Document
import PatchReview.Proofs.Text.Join
import PatchReview.Proofs.Text.Lines

/-! Rule documents one behind the other. If the first leaves no code open and the second starts with
the heading of a category, the whole says what both say: its buckets are those of the two sets of
rules put together, bucket by bucket. -/
namespace PatchReview

namespace RuleDocument

section Gather
variable {α β : Type} {give : List α → α → Option β}

theorem gather_append (give : List α → α → Option β) (xs ys : List α) :
    gather give (xs ++ ys) = gather give xs ++ gather (fun before => give (xs ++ before)) ys := by
  induction ys using List.reverseRecOn with
  | nil => simp
  | append_singleton ys y ih =>
    rw [← List.append_assoc, gather_concat, gather_concat, ih, List.append_assoc]

theorem gather_cons (give : List α → α → Option β) (x : α) (xs : List α) :
    gather give (x :: xs) =
      (give [] x).toList ++ gather (fun before => give (x :: before)) xs := by
  have h := gather_append give [x] xs
  have hone : gather give [x] = (give [] x).toList := gather_concat give [] x
  rwa [hone] at h

/-- What stands behind `xs` does not depend on `xs` if its first line makes up for it. -/
theorem gather_append_of_restart {xs rest : List α} {head : α} (hhead : give xs head = give [] head)
    (hrest : ∀ before, give (xs ++ head :: before) = give (head :: before)) :
    gather give (xs ++ head :: rest) = gather give xs ++ gather give (head :: rest) := by
  rw [gather_append, gather_cons, gather_cons, List.append_nil, hhead]
  simp only [hrest]

theorem mem_of_mem_gather {ls : List α} {y : β} (h : y ∈ gather give ls) :
    ∃ before, ∃ line ∈ ls, give before line = some y := by
  induction ls using List.reverseRecOn with
  | nil => exact absurd h List.not_mem_nil
  | append_singleton ls line ih =>
    rw [gather_concat, List.mem_append, Option.mem_toList] at h
    rcases h with h | h
    · obtain ⟨before, l, hl, hgive⟩ := ih h
      exact ⟨before, l, List.mem_append_left _ hl, hgive⟩
    · exact ⟨ls, line, List.mem_append_right _ (List.mem_singleton_self line), h⟩

end Gather

section Merge
variable {names : List String} {rules : String → List Rule}

theorem append_concat (b b' : Buckets) (name : String) (more : List Rule) :
    b.append (b' ++ [(name, more)]) = (b.append b').extend name more := List.foldl_append

/-- What is put into buckets goes to those of its names, behind what is there. -/
theorem buckets_append (hnew : ∀ name, name ∉ names → rules name = []) (b : Buckets) :
    (buckets names rules).append b =
      buckets (names ++ b.map (·.1)) fun name => rules name ++ b.rulesUnder (· == name) := by
  induction b using List.reverseRecOn with
  | nil => simp [Buckets.append, Buckets.rulesUnder]
  | append_singleton b bucket ih =>
    obtain ⟨name, more⟩ := bucket
    have hmore : ∀ n, Buckets.rulesUnder (· == n) (b ++ [(name, more)]) =
        Buckets.rulesUnder (· == n) b ++ if name = n then more else [] := by
      intro n
      rw [Buckets.rulesUnder_concat, Buckets.rulesUnder_cons]
      simp [Buckets.rulesUnder]
    have hnew' : name ∉ names ++ b.map (·.1) →
        rules name ++ Buckets.rulesUnder (· == name) b = [] := by
      intro h
      rw [List.mem_append, not_or] at h
      rw [hnew name h.1, Buckets.rulesUnder_eq_nil h.2, List.append_nil]
    rw [append_concat, ih, extend_buckets _ _ _ _ hnew', List.map_append, List.append_assoc]
    simp only [hmore, List.append_assoc]
    rfl

theorem rulesUnder_buckets {name : String} (hnew : name ∉ names → rules name = []) :
    (buckets names rules).rulesUnder (· == name) = rules name := by
  have hnames : names.eraseDups.filter (· == name) = if name ∈ names then [name] else [] := by
    rw [List.filter_beq]
    split
    · next hname =>
      rw [List.count_eq_one_of_mem (nodup_eraseDups names) (List.mem_eraseDups.2 hname)]
      rfl
    · next hname => rw [List.count_eq_zero.2 (mt List.mem_eraseDups.1 hname), List.replicate_zero]
  have hbuckets : (buckets names rules).filter (fun bucket => bucket.1 == name) =
      (names.eraseDups.filter (· == name)).map fun n => (n, rules n) := List.filter_map
  rw [Buckets.rulesUnder, hbuckets, hnames]
  split
  · exact List.append_nil _
  · next hname => rw [hnew hname, List.map_nil, List.flatMap_nil]

theorem append_buckets_of_new {more : List String} {rules' : String → List Rule}
    (hnew : ∀ name, name ∉ names → rules name = []) (hnew' : ∀ name, name ∉ more → rules' name = []) :
    (buckets names rules).append (buckets more rules') =
      buckets (names ++ more) fun name => rules name ++ rules' name := by
  have hnames : (buckets more rules').map (·.1) = more.eraseDups := by
    rw [buckets, List.map_map]
    exact List.map_id _
  have hdups : (names ++ more.eraseDups).eraseDups = (names ++ more).eraseDups := by
    rw [← eraseDups_append_eraseDups names more.eraseDups, eraseDups_eraseDups,
      eraseDups_append_eraseDups]
  have hrules : ∀ name, (buckets more rules').rulesUnder (· == name) = rules' name :=
    fun name => rulesUnder_buckets (hnew' name)
  rw [buckets_append hnew, hnames]
  simp only [hrules]
  rw [buckets, hdups, buckets]

theorem nil_append_buckets (hnew : ∀ name, name ∉ names → rules name = []) :
    Buckets.append [] (buckets names rules) = buckets names rules := by
  have h : (buckets [] fun _ => []).append (buckets names rules) =
      buckets ([] ++ names) fun name => [] ++ rules name :=
    append_buckets_of_new (fun _ _ => rfl) hnew
  exact h

end Merge

section Restart
variable {ls rest : List (List Char)} {head : List Char} {name : String}

theorem categoryAfter_restart (hhead : category? head = some name) (before : List (List Char)) :
    categoryAfter (ls ++ head :: before) = categoryAfter (head :: before) := by
  induction before using List.reverseRecOn with
  | nil =>
    have h := categoryAfter_concat [] head
    rw [List.nil_append] at h
    rw [categoryAfter_concat, h, hhead]
    rfl
  | append_singleton before line ih =>
    rw [← List.cons_append, ← List.append_assoc, categoryAfter_concat, categoryAfter_concat, ih]

theorem languageAfter_restart (hhead : category? head = some name) (before : List (List Char)) :
    languageAfter (ls ++ head :: before) = languageAfter (head :: before) := by
  induction before using List.reverseRecOn with
  | nil =>
    have h := languageAfter_concat [] head
    rw [List.nil_append] at h
    rw [languageAfter_concat, h, hhead]
    rfl
  | append_singleton before line ih =>
    rw [← List.cons_append, ← List.append_assoc, languageAfter_concat, languageAfter_concat, ih]

theorem placeAfter_restart (hhead : category? head = some name) (before : List (List Char)) :
    placeAfter (ls ++ head :: before) = placeAfter (head :: before) := by
  rw [placeAfter, placeAfter, categoryAfter_restart hhead, languageAfter_restart hhead]

theorem not_item_of_category (hhead : category? head = some name) :
    item? head = none ∧ plain? head = none := by
  unfold category? at hhead
  split at hhead
  · exact ⟨rfl, rfl⟩
  · cases hhead

theorem filed_restart (hhead : category? head = some name) (place : Place) :
    filed place (ls ++ head :: rest) = filed place ls ++ filed place (head :: rest) := by
  refine gather_append_of_restart ?_ ?_
  · simp only [(not_item_of_category hhead).1, ite_self]
  · intro before
    simp only [placeAfter_restart hhead]

theorem toneLines_restart (hhead : category? head = some name) :
    toneLines (ls ++ head :: rest) = toneLines ls ++ toneLines (head :: rest) := by
  refine gather_append_of_restart ?_ ?_
  · simp only [(not_item_of_category hhead).2, ite_self]
  · intro before
    simp only [categoryAfter_restart hhead]

/-- The buckets of a whole document are merged from those of its parts. -/
theorem buckets_restart (hhead : category? head = some name) {opens : List Char → Option String}
    {place : String → Place}
    (hnew : ∀ ls name, name ∉ List.filterMap opens ls → filed (place name) ls = []) :
    buckets ((ls ++ head :: rest).filterMap opens)
        (fun name => filed (place name) (ls ++ head :: rest)) =
      (Buckets.append [] (buckets (ls.filterMap opens) fun name => filed (place name) ls)).append
        (buckets ((head :: rest).filterMap opens) fun name => filed (place name) (head :: rest)) := by
  rw [nil_append_buckets (hnew ls), append_buckets_of_new (hnew ls) (hnew (head :: rest))]
  simp only [List.filterMap_append, filed_restart hhead]

/-- Fences that come in pairs leave the lines behind them as live as they are. -/
theorem live_append (heven : ls.countP isFence % 2 = 0) (more : List (List Char)) :
    live (ls ++ more) = live ls ++ live more := by
  have hparity : ∀ before : List (List Char),
      (ls ++ before).countP isFence % 2 = before.countP isFence % 2 := by
    intro before
    rw [List.countP_append, Nat.add_mod, heven, Nat.zero_add, Nat.mod_mod]
  rw [live, gather_append]
  simp only [hparity]
  rfl

end Restart

theorem lines_append (text more : String) : lines (text ++ "\n" ++ more) = lines text ++ lines more := by
  have htext : (text ++ "\n" ++ more).toList = text.toList ++ '\n' :: more.toList := by simp
  obtain ⟨ls, -, hls, h⟩ := Text.exists_lines_append_lineFeed text.toList
  rw [lines, htext, h, List.map_append, List.filter_append]
  congr 1
  rcases hls with rfl | rfl
  · rfl
  · simp [lines]

/-- What a document says is told by its live lines. -/
theorem ofDocument_eq (text : String) (source : Option String) :
    RuleSet.ofDocument text source = (reader false (live (lines text))).ruleSet source := by
  rw [RuleSet.ofDocument, foldl_step]
  rfl

theorem live_of_category {line : List Char} {name : String} (hline : category? line = some name)
    (more : List (List Char)) : ∃ rest, live (line :: more) = line :: rest := by
  have hfence : isFence line = false := by
    unfold category? at hline
    split at hline
    · rfl
    · cases hline
  rw [live, gather_cons, hfence, if_pos ⟨rfl, rfl⟩]
  exact ⟨_, rfl⟩

/-- No line of a tone is empty. -/
theorem ne_empty_of_mem_toneLines {text s : String} (h : s ∈ toneLines (live (lines text))) :
    s ≠ "" := by
  obtain ⟨before, line, hline, hs⟩ := mem_of_mem_gather h
  obtain ⟨before', line', hline', hlive⟩ := mem_of_mem_gather hline
  have hne : line ≠ [] := by
    split at hlive
    · cases hlive
      simpa using (List.mem_filter.1 hline').2
    · cases hlive
  rintro rfl
  split at hs
  · unfold plain? at hs
    split at hs
    · cases hs
    · cases hs
    · exact hne (String.ofList_eq_empty_iff.1 (Option.some.inj hs))
  · cases hs

end RuleDocument

namespace RuleSet
open RuleDocument

theorem tone_ofDocument (text : String) (source : Option String) :
    (ofDocument text source).tone = Text.join " " (toneLines (live (lines text))) := by
  rw [ofDocument_eq]
  rfl

theorem tone_eq_empty (text : String) (source : Option String) :
    (ofDocument text source).tone = "" ↔ toneLines (live (lines text)) = [] := by
  rw [tone_ofDocument]
  exact Text.join_eq_empty " " fun _ => ne_empty_of_mem_toneLines

theorem merge_pair (a b : RuleSet) : merge [a, b] = (append {} a).append b := rfl

theorem tone_merge_pair (a b : RuleSet) :
    (merge [a, b]).tone = if b.tone = "" then a.tone else b.tone := by
  have hself : (if a.tone = "" then "" else a.tone) = a.tone := by
    split
    · exact Eq.symm ‹_›
    · rfl
  simp only [merge_pair, append, String.isEmpty_iff, hself]

/-- A document behind another one, of which it leaves no code open, adds its rules to the buckets of
the first as a merge of the two sets does. The tones are joined, where a merge keeps the last. -/
theorem ofDocument_append_eq_merge {text more : String}
    (heven : (lines text).countP isFence % 2 = 0)
    (hhead : ∃ line rest, lines more = line :: rest ∧ "## ".toList <+: line)
    (source source₁ source₂ : Option String) :
    let whole := ofDocument (text ++ "\n" ++ more) source
    let first := ofDocument text source₁
    let second := ofDocument more source₂
    let merged := merge [first, second]
    whole.categories = merged.categories ∧
    whole.languages = merged.languages ∧
    whole.global = merged.global ∧
    (first.tone ≠ "" → second.tone ≠ "" → whole.tone = first.tone ++ " " ++ second.tone) ∧
    (first.tone = "" ∨ second.tone = "" → whole.tone = merged.tone) := by
  obtain ⟨line, rest, hmore, hmark⟩ := hhead
  obtain ⟨name, hline⟩ : ∃ name, category? line = some name := by
    obtain ⟨behind, rfl⟩ := hmark
    exact ⟨RuleReader.headingText behind, rfl⟩
  obtain ⟨rest', hlive⟩ := live_of_category hline rest
  rw [← hmore] at hlive
  have hwhole : live (lines (text ++ "\n" ++ more)) = live (lines text) ++ live (lines more) := by
    rw [lines_append, live_append heven]
  have htone : toneLines (live (lines text) ++ live (lines more)) =
      toneLines (live (lines text)) ++ toneLines (live (lines more)) := by
    rw [hlive, toneLines_restart hline]
  intro whole first second merged
  refine ⟨?_, ?_, ?_, ?_, ?_⟩
  · simp only [whole, merged, first, second, ofDocument_eq, hwhole, hlive, merge_pair, append,
      RuleReader.ruleSet, reader]
    exact buckets_restart hline fun _ _ hname => filed_eq_nil hname
  · simp only [whole, merged, first, second, ofDocument_eq, hwhole, hlive, merge_pair, append,
      RuleReader.ruleSet, reader]
    exact buckets_restart hline fun _ _ hname => filed_eq_nil hname
  · simp only [whole, merged, first, second, ofDocument_eq, hwhole, hlive, merge_pair, append,
      RuleReader.ruleSet, reader, List.nil_append]
    exact filed_restart hline .global
  · intro hfirst hsecond
    simp only [whole, first, second, tone_ofDocument, hwhole, htone]
    exact Text.join_append " " (mt (tone_eq_empty text source₁).2 hfirst)
      (mt (tone_eq_empty more source₂).2 hsecond)
  · rintro (hfirst | hsecond)
    · have hnone := (tone_eq_empty text source₁).1 hfirst
      have hwhole' : whole.tone = second.tone := by
        rw [tone_ofDocument, tone_ofDocument, hwhole, htone, hnone, List.nil_append]
      rw [tone_merge_pair, hfirst, hwhole']
      split
      · assumption
      · rfl
    · have hnone := (tone_eq_empty more source₂).1 hsecond
      rw [tone_merge_pair, if_pos hsecond, tone_ofDocument, tone_ofDocument, hwhole, htone, hnone,
        List.append_nil]

/-- A document that opens a bucket of the first again, leaves one empty and holds code that is never
closed, behind one with a tone. -/
theorem ofDocument_append_eq_merge_of_reopened :
    let text := "- g\n## A\n- a\n```\n## C\n```\n## Review Tone\nBe brief."
    let more := "\n## B\n### P\n- p\n## a\n- c\n## Review Tone\nBe kind.\n```\n- d"
    let whole := ofDocument (text ++ "\n" ++ more) none
    let merged := merge [ofDocument text none, ofDocument more none]
    ((lines text).countP isFence % 2 = 0 ∧
      ∃ line rest, lines more = line :: rest ∧ "## ".toList <+: line) ∧
    whole.categories = merged.categories ∧ whole.languages = merged.languages ∧
    whole.global = merged.global ∧ whole.tone = "Be brief. Be kind." := by
  intro text more whole merged
  have heven : (lines text).countP isFence % 2 = 0 := by decide +kernel
  have hhead : ∃ line rest, lines more = line :: rest ∧ "## ".toList <+: line :=
    ⟨"## B".toList, (lines more).tail, by decide +kernel, by decide +kernel⟩
  obtain ⟨hcategories, hlanguages, hglobal, htone, -⟩ :=
    ofDocument_append_eq_merge heven hhead none none none
  refine ⟨⟨heven, hhead⟩, hcategories, hlanguages, hglobal, ?_⟩
  exact (htone (by decide +kernel) (by decide +kernel)).trans (by decide +kernel)

end RuleSet
end PatchReview
