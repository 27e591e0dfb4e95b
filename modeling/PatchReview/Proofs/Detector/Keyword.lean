import PatchReview.Proofs.Detector.Choice
import PatchReview.Proofs.Text.Sigma

/-! What a team's patterns find on a line: each on its own, in the order in which they are configured.
A keyword is found on a line if its lower case occurs in the lower case of the line. So it may be
missed where it stands in the line letter by letter, if it has a sigma of which the neighbours in the
line make another letter. -/
namespace PatchReview

namespace CustomPattern

/-- The issues of a detector that looks for this pattern only. -/
def alone (p : CustomPattern) (line : LineContext) : List Issue :=
  match DetectorChoice.setUp {} [p] .custom with
  | .ok detector => detector.detect line
  | .error _ => []

/-- The issue for the keyword of the pattern on a line in `language`. -/
def keywordIssue (p : CustomPattern) (language : String) : Issue where
  message := p.message
  suggestion := p.suggestion
  ruleId := p.ruleId
  tags := Text.sortedDistinct p.tags
  evidence := some .keyword
  source := .custom
  language := if p.languages.isEmpty then none else some language

/-- The pattern is one of a keyword, it is for the language, and the file does not accept its
findings. -/
structure LooksFor (p : CustomPattern) (keyword language : String) (file : FileIntent) : Prop where
  regex_eq : p.regex = none
  keyword_eq : p.keyword = some keyword
  keyword_ne_empty : keyword ≠ ""
  isForLanguage : p.languages = [] ∨ language ∈ p.languages
  not_allowed : file.allows p.ruleId = false

section Alone
variable {p : CustomPattern} {ready : ReadyPattern} {keyword language : String} {file : FileIntent}

theorem alone_of_ready (h : p.ready? = .ok ready) (line : LineContext) :
    p.alone line = (ready.find? line).toList := by
  have hready : [p].mapM ready? = .ok [ready] := mapM_eq_ok.2 (.cons h .nil)
  rw [alone, DetectorChoice.setUp, hready]
  exact (List.filterMap_eq_flatMap_toList _ _).trans (List.flatMap_singleton _ _)

theorem alone_of_error {e : Pattern.PatternError} (h : p.ready? = .error e) (line : LineContext) :
    p.alone line = [] := by
  rw [alone, DetectorChoice.setUp, List.mapM_cons, h]
  rfl

theorem length_alone_le (p : CustomPattern) (line : LineContext) : (p.alone line).length ≤ 1 := by
  cases hready : p.ready? with
  | error e =>
    rw [alone_of_error hready]
    exact Nat.zero_le 1
  | ok ready =>
    rw [alone_of_ready hready]
    exact Option.length_toList_le

/-- A detector of several patterns reports what each of them finds alone. -/
theorem filterMap_find?_eq_flatMap {patterns : List CustomPattern} {readied : List ReadyPattern}
    (h : patterns.mapM ready? = .ok readied) (line : LineContext) :
    readied.filterMap (·.find? line) = patterns.flatMap (·.alone line) := by
  rw [List.filterMap_eq_flatMap_toList]
  induction mapM_eq_ok.1 h with
  | nil => rfl
  | cons hready hrest ih =>
    rw [List.flatMap_cons, List.flatMap_cons, alone_of_ready hready, ih (mapM_eq_ok.2 hrest)]

theorem alone_of_looksFor (h : p.LooksFor keyword language file) (content : String) :
    p.alone ⟨content, language, file⟩ =
      if Text.occurs (Text.lower keyword.toList) (Text.lower content.toList) then
        [p.keywordIssue language]
      else [] := by
  have hready : p.ready? = .ok { p with node := none } := by
    rw [ready?, h.regex_eq]
  have hlanguage : (p.languages.isEmpty || p.languages.contains language) = true := by
    rw [Bool.or_eq_true, List.isEmpty_iff, List.contains_iff_mem]
    exact h.isForLanguage
  have hkeyword : keyword.isEmpty = false := by
    rw [← Bool.not_eq_true, String.isEmpty_iff]
    exact h.keyword_ne_empty
  rw [alone_of_ready hready, ReadyPattern.find?, ReadyPattern.recognise?]
  simp only [hlanguage, h.not_allowed, h.keyword_eq, hkeyword, Bool.not_false, Bool.true_and,
    if_true]
  by_cases hfound : Text.occurs (Text.lower keyword.toList) (Text.lower content.toList) = true
  · rw [if_pos hfound, if_pos hfound]
    rfl
  · rw [if_neg hfound, if_neg hfound]
    rfl

theorem alone_eq_singleton_iff (h : p.LooksFor keyword language file) {content : String} :
    p.alone ⟨content, language, file⟩ = [p.keywordIssue language] ↔
      Text.lower keyword.toList <:+: Text.lower content.toList := by
  rw [alone_of_looksFor h, ← Text.occurs_iff]
  split
  · next hfound => exact iff_of_true rfl hfound
  · next hnot => exact iff_of_false (List.cons_ne_nil _ _).symm hnot

theorem forall_alone_iff (h : p.LooksFor keyword language file) :
    (∀ u v, p.alone ⟨u ++ keyword ++ v, language, file⟩ = [p.keywordIssue language]) ↔
      Text.HasClosedSigmas keyword.toList := by
  simp only [alone_eq_singleton_iff h, String.toList_append]
  rw [← Text.forall_lower_infix_iff]
  constructor
  · intro hall u v
    have hfound := hall (String.ofList u) (String.ofList v)
    rwa [String.toList_ofList, String.toList_ofList] at hfound
  · exact fun hall u v => hall u.toList v.toList

end Alone

/-- Patterns whose expressions can be read are looked for each on its own: at most one issue of each,
in the order of the patterns. A keyword is found if its lower case occurs in that of the line. So it
is found where its sigmas have the form that they have alone, and it is found on every line that has
it if and only if none of its sigmas is open. -/
theorem detect_pattern_by_pattern (rules : RuleSet) {patterns : List CustomPattern}
    (h : ∀ p ∈ patterns, ∀ text ∈ p.regex, ∃ node, Pattern.compile? text = .ok node) :
    ∃ detector, DetectorChoice.setUp rules patterns .custom = .ok detector ∧
      (∀ line, detector.detect line = patterns.flatMap (·.alone line)) ∧
      (∀ p ∈ patterns, ∀ line, (p.alone line).length ≤ 1) ∧
      ∀ p ∈ patterns, ∀ keyword language file, p.LooksFor keyword language file →
        (∀ content : String, p.alone ⟨content, language, file⟩ =
          if Text.occurs (Text.lower keyword.toList) (Text.lower content.toList) then
            [p.keywordIssue language]
          else []) ∧
        (∀ u v : String, Text.KeepsForms u.toList keyword.toList v.toList →
          p.alone ⟨u ++ keyword ++ v, language, file⟩ = [p.keywordIssue language]) ∧
        ((∀ u v : String, p.alone ⟨u ++ keyword ++ v, language, file⟩ = [p.keywordIssue language]) ↔
          Text.HasClosedSigmas keyword.toList) := by
  obtain ⟨ready, hready⟩ := DetectorChoice.exists_ready h
  refine ⟨.custom ready, ?_, filterMap_find?_eq_flatMap hready, fun p _ => length_alone_le p, ?_⟩
  · rw [DetectorChoice.setUp, hready]
    rfl
  · intro p _ keyword language file hlooks
    refine ⟨alone_of_looksFor hlooks, ?_, forall_alone_iff hlooks⟩
    intro u v hkeeps
    rw [alone_eq_singleton_iff hlooks, String.toList_append, String.toList_append]
    exact Text.lower_infix_of_keepsForms hkeeps

/-- A keyword with a sigma at the start of a word is found in every text, whatever the expressions in
front of it and behind it find. -/
theorem detect_pattern_by_pattern_of_first_sigma :
    let task : CustomPattern := { ruleId := "task", message := "Open task", regex := some "TODO" }
    let name : CustomPattern :=
      { ruleId := "name", message := "Name", keyword := some "ΣΟΦΙΑ", languages := ["python"] }
    let file := FileIntent.classify "a.py" ""
    ∃ detector, DetectorChoice.setUp {} [task, name, task] .custom = .ok detector ∧
      ∀ u v : String, let line : LineContext := ⟨u ++ "ΣΟΦΙΑ" ++ v, "python", file⟩
        detector.detect line = task.alone line ++ name.keywordIssue "python" :: task.alone line := by
  intro task name file
  have hpatterns : ∀ p ∈ [task, name, task], ∀ text ∈ p.regex,
      ∃ node, Pattern.compile? text = .ok node := by
    have htask : ∀ text ∈ task.regex, ∃ node, Pattern.compile? text = .ok node := by
      rintro _ ⟨⟩
      exact ⟨_, rfl⟩
    have hname : ∀ text ∈ name.regex, ∃ node, Pattern.compile? text = .ok node := by
      rintro _ ⟨⟩
    simp only [List.forall_mem_cons]
    exact ⟨htask, hname, htask, List.forall_mem_nil _⟩
  obtain ⟨detector, hsetUp, hdetect, -, hkeyword⟩ := detect_pattern_by_pattern {} hpatterns
  have hlooks : name.LooksFor "ΣΟΦΙΑ" "python" file :=
    ⟨rfl, rfl, by decide, .inr (by decide), by decide +kernel⟩
  have hclosed : Text.HasClosedSigmas "ΣΟΦΙΑ".toList := by decide +kernel
  refine ⟨detector, hsetUp, ?_⟩
  intro u v line
  have hfound := (hkeyword name (by simp) _ _ _ hlooks).2.2.2 hclosed u v
  rw [hdetect, List.flatMap_cons, List.flatMap_cons, List.flatMap_singleton, hfound]
  rfl

/-- The last sigma of a keyword is no longer the last one of the word. -/
theorem alone_eq_nil_of_last_sigma :
    let p : CustomPattern := { ruleId := "road", message := "Road", keyword := some "ΟΔΟΣ" }
    let file := FileIntent.classify "a.py" ""
    p.LooksFor "ΟΔΟΣ" "python" file ∧ p.alone ⟨"" ++ "ΟΔΟΣ" ++ "Α", "python", file⟩ = [] := by
  intro p file
  have hlooks : p.LooksFor "ΟΔΟΣ" "python" file :=
    ⟨rfl, rfl, by decide, .inl rfl, by decide +kernel⟩
  refine ⟨hlooks, ?_⟩
  rw [alone_of_looksFor hlooks, if_neg (by decide +kernel)]

end CustomPattern
end PatchReview
