import PatchReview.Proofs.Config.Fields

/-! Configurations that are read again. What the reader leaves has passed its checks, its languages
and its level are in their letter case, and its numbers are in range. So the reader accepts what is
written of it, and leaves the same. -/
namespace PatchReview
open Text (HasContent)
open Finding (optionalText)

/-- A pattern as the reader leaves it. -/
structure CustomPattern.IsResolved (p : CustomPattern) : Prop where
  one : p.regex.isNone ≠ p.keyword.isNone
  regex : ∀ text ∈ p.regex, HasContent text ∧ ∃ node, Pattern.compile? text = .ok node
  keyword : ∀ text ∈ p.keyword, HasContent text
  ruleId : HasContent p.ruleId
  message : HasContent p.message
  suggestion : ∀ text ∈ p.suggestion, HasContent text
  languages : p.languages.map Text.lowered = p.languages

/-- A configuration as the reader leaves it. -/
structure Config.IsResolved (c : Config) : Prop where
  minConfidence : 0 ≤ c.minConfidence ∧ c.minConfidence ≤ 100
  rulesFile : ∀ s ∈ c.rulesFile, HasContent s
  patterns : ∀ p ∈ c.patterns, p.IsResolved
  maxFiles : 0 < c.maxFiles
  workers : 0 < c.workers
  timeout : ∀ t ∈ c.timeout, t.isNonPositive = false
  logLevel : HasContent c.logLevel
  uppered_logLevel : Text.uppered c.logLevel = c.logLevel

namespace Config

section Patterns
variable {name : String} {index : Nat} {fields : List (String × Value)} {p : CustomPattern}

/-- The fields of a table are read as a pattern. -/
structure ReadsPattern (name : String) (index : Nat) (fields : List (String × Value))
    (p : CustomPattern) : Prop where
  one : (given? "regex" fields).isNone ≠ (given? "keyword" fields).isNone
  regex : readOptional fields "regex" (name ++ ".regex") = .ok p.regex
  expression : ∀ text ∈ p.regex, checkExpression (name ++ ".regex") text = .ok ()
  keyword : readOptional fields "keyword" (name ++ ".keyword") = .ok p.keyword
  ruleId : readText (name ++ ".rule_id")
    ((Value.field? "rule_id" fields).getD (.text ("custom-pattern-" ++ toString index))) =
      .ok p.ruleId
  message : readText (name ++ ".message") ((Value.field? "message" fields).getD .null) =
    .ok p.message
  suggestion : readOptional fields "suggestion" (name ++ ".suggestion") = .ok p.suggestion
  tags : readTexts fields "tags" (name ++ ".tags") = .ok p.tags
  languages : ∃ languages, readTexts fields "languages" (name ++ ".languages") = .ok languages ∧
    p.languages = languages.map Text.lowered

theorem readPattern_eq_ok : readPattern name index fields = .ok p ↔
    ReadsPattern name index fields p := by
  simp only [readPattern, check_eq_ok, bind_eq_ok]
  constructor
  · rintro ⟨hone, regex, hregex, h⟩
    have hone' := mt beq_iff_eq.2 hone
    cases regex with
    | none =>
      simp only [bind_eq_ok] at h
      obtain ⟨keyword, hkeyword, ruleId, hruleId, message, hmessage, suggestion, hsuggestion, tags,
        htags, languages, hlanguages, ⟨⟩⟩ := h
      exact ⟨hone', hregex, (fun _ htext => nomatch htext), hkeyword, hruleId, hmessage,
        hsuggestion, htags, languages, hlanguages, rfl⟩
    | some text =>
      simp only [bind_eq_ok] at h
      obtain ⟨⟨⟩, hcheck, keyword, hkeyword, ruleId, hruleId, message, hmessage, suggestion,
        hsuggestion, tags, htags, languages, hlanguages, ⟨⟩⟩ := h
      have hcheck' : ∀ s ∈ some text, checkExpression (name ++ ".regex") s = .ok () := by
        rintro _ ⟨⟩
        exact hcheck
      exact ⟨hone', hregex, hcheck', hkeyword, hruleId, hmessage, hsuggestion, htags, languages,
        hlanguages, rfl⟩
  · intro h
    obtain ⟨languages, hlanguages, hlowered⟩ := h.languages
    refine ⟨mt beq_iff_eq.1 h.one, p.regex, h.regex, ?_⟩
    obtain ⟨ruleId, message, regex, keyword, suggestion, tags, lowered⟩ := p
    subst hlowered
    cases regex with
    | none =>
      simp only [bind_eq_ok]
      exact ⟨keyword, h.keyword, ruleId, h.ruleId, message, h.message, suggestion, h.suggestion,
        tags, h.tags, languages, hlanguages, rfl⟩
    | some text =>
      simp only [bind_eq_ok]
      exact ⟨(), h.expression text rfl, keyword, h.keyword, ruleId, h.ruleId, message, h.message,
        suggestion, h.suggestion, tags, h.tags, languages, hlanguages, rfl⟩

theorem ReadsPattern.isResolved (h : ReadsPattern name index fields p) : p.IsResolved := by
  obtain ⟨hregex, hregexContent⟩ := readOptional_eq_ok.1 h.regex
  obtain ⟨hkeyword, hkeywordContent⟩ := readOptional_eq_ok.1 h.keyword
  obtain ⟨languages, -, hlanguages⟩ := h.languages
  refine ⟨?_, ?_, hkeywordContent, (readText_eq_ok.1 h.ruleId).2, (readText_eq_ok.1 h.message).2,
    (readOptional_eq_ok.1 h.suggestion).2, ?_⟩
  · have hone := h.one
    rw [hregex, hkeyword, Option.isNone_map, Option.isNone_map] at hone
    exact hone
  · intro text htext
    exact ⟨hregexContent text htext, checkExpression_eq_ok.1 (h.expression text htext)⟩
  · rw [hlanguages, List.map_map]
    exact List.map_congr_left fun s _ => Text.lowered_lowered s

def patternFields (p : CustomPattern) : List (String × Value) := [
  ("rule_id", .text p.ruleId),
  ("message", .text p.message),
  ("regex", optionalText p.regex),
  ("keyword", optionalText p.keyword),
  ("suggestion", optionalText p.suggestion),
  ("tags", textsValue p.tags),
  ("languages", textsValue p.languages)]

theorem toValue_eq (p : CustomPattern) : p.toValue = .table (patternFields p) := rfl

theorem readsPattern_patternFields (h : p.IsResolved) :
    ReadsPattern name index (patternFields p) p := by
  have hregex : given? "regex" (patternFields p) = p.regex.map .text := given?_of_optionalText rfl
  have hkeyword : given? "keyword" (patternFields p) = p.keyword.map .text :=
    given?_of_optionalText rfl
  refine ⟨?_, ?_, ?_, ?_, ?_, ?_, ?_, ?_, ?_⟩
  · rw [hregex, hkeyword, Option.isNone_map, Option.isNone_map]
    exact h.one
  · exact readOptional_eq_ok.2 ⟨hregex, fun text htext => (h.regex text htext).1⟩
  · exact fun text htext => checkExpression_eq_ok.2 (h.regex text htext).2
  · exact readOptional_eq_ok.2 ⟨hkeyword, h.keyword⟩
  · exact readText_eq_ok.2 ⟨rfl, h.ruleId⟩
  · exact readText_eq_ok.2 ⟨rfl, h.message⟩
  · exact readOptional_eq_ok.2 ⟨given?_of_optionalText rfl, h.suggestion⟩
  · exact readTexts_of_textsValue rfl
  · exact ⟨p.languages, readTexts_of_textsValue rfl, h.languages.symm⟩

theorem isResolved_of_readPatternsFrom {tables : List (List (String × Value))}
    {patterns : List CustomPattern} (h : readPatternsFrom index tables = .ok patterns) :
    ∀ p ∈ patterns, p.IsResolved := by
  induction tables generalizing index patterns with
  | nil =>
    cases h
    exact List.forall_mem_nil _
  | cons fields tables ih =>
    simp only [readPatternsFrom, bind_eq_ok] at h
    obtain ⟨p, hp, patterns, hpatterns, ⟨⟩⟩ := h
    exact List.forall_mem_cons.2 ⟨(readPattern_eq_ok.1 hp).isResolved, ih hpatterns⟩

theorem readPatternsFrom_patternFields {patterns : List CustomPattern}
    (h : ∀ p ∈ patterns, p.IsResolved) :
    readPatternsFrom index (patterns.map patternFields) = .ok patterns := by
  induction patterns generalizing index with
  | nil => rfl
  | cons p patterns ih =>
    obtain ⟨hp, hpatterns⟩ := List.forall_mem_cons.1 h
    simp only [List.map_cons, readPatternsFrom, bind_eq_ok]
    exact ⟨p, readPattern_eq_ok.2 (readsPattern_patternFields hp), patterns, ih hpatterns, rfl⟩

theorem isResolved_of_readPatterns {patterns : List CustomPattern}
    (h : readPatterns fields = .ok patterns) : ∀ p ∈ patterns, p.IsResolved := by
  rw [readPatterns] at h
  split at h
  · cases h
    exact List.forall_mem_nil _
  · split at h
    · exact isResolved_of_readPatternsFrom h
    · cases h
  · cases h

theorem readPatterns_toValue {patterns : List CustomPattern}
    (hfield : Value.field? "patterns" fields = some (.list (patterns.map CustomPattern.toValue)))
    (h : ∀ p ∈ patterns, p.IsResolved) : readPatterns fields = .ok patterns := by
  rw [readPatterns, given?_of_ne_null hfield nofun]
  dsimp only
  rw [mapM_map_eq_some (k := patternFields)]
  · exact readPatternsFrom_patternFields h
  · intro p
    rw [toValue_eq]

end Patterns

section Fields
variable {fields : List (String × Value)} {source : Option String} {c : Config}

theorem isResolved_of_ofFields (h : ofFields fields source = .ok c) : c.IsResolved := by
  simp only [ofFields, bind_eq_ok, check_eq_ok] at h
  obtain ⟨detectors, -, review, -, format, -, minConfidence, -, hpercentage, failOn, -,
    rulesFile, hrulesFile, included, -, excluded, -, enabled, -, disabled, -, patterns, hpatterns,
    maxFiles, hmaxFiles, workers, hworkers, timeout, htimeout, level, hlevel, ⟨⟩⟩ := h
  refine ⟨?_, ?_, ?_, ?_, ?_, ?_, ?_, ?_⟩
  · dsimp only
    omega
  · exact (readOptional_eq_ok.1 hrulesFile).2
  · exact isResolved_of_readPatterns hpatterns
  · exact (readPositive_eq_ok.1 hmaxFiles).2
  · exact (readPositive_eq_ok.1 hworkers).2
  · exact readTimeout_eq_ok htimeout
  · exact (readText_eq_ok.1 hlevel).2.uppered
  · exact Text.uppered_uppered level

/-- The reader accepts what is written of a resolved configuration, and leaves the same. -/
theorem ofFields_of_isResolved (h : c.IsResolved) : ofFields c.toFields c.source = .ok c := by
  simp only [ofFields, bind_eq_ok, check_eq_ok]
  refine ⟨_, readTable_of_table rfl, _, readTable_of_table rfl, c.format, readFormat_of_name rfl,
    c.minConfidence, readInteger_of_int rfl, ?_, c.failOn, readFailOn_of_choice rfl, c.rulesFile, ?_,
    c.scope.included, readTexts_of_textsValue rfl, c.scope.excluded, readTexts_of_textsValue rfl,
    c.detectors.enabled, ?_, c.detectors.disabled, readTexts_of_textsValue rfl, c.patterns,
    readPatterns_toValue rfl h.patterns, c.maxFiles, ?_, c.workers, ?_, c.timeout, ?_, c.logLevel,
    readText_eq_ok.2 ⟨rfl, h.logLevel⟩, ?_⟩
  · have := h.minConfidence
    omega
  · exact readOptional_eq_ok.2 ⟨given?_of_optionalText rfl, h.rulesFile⟩
  · exact readTexts?_of_optional rfl
  · exact readPositive_eq_ok.2 ⟨readInteger_of_int rfl, h.maxFiles⟩
  · exact readPositive_eq_ok.2 ⟨readInteger_of_int rfl, h.workers⟩
  · exact readTimeout_of_float rfl h.timeout
  · rw [h.uppered_logLevel]
    rfl

theorem isResolved_default : ({} : Config).IsResolved := by
  refine ⟨by decide, ?_, List.forall_mem_nil _, by decide, by decide, ?_, ?_, by decide⟩
  · rintro _ ⟨⟩
  · rintro _ ⟨⟩
  · exact Text.hasContent_iff.2 (by decide)

end Fields

/-- A configuration that was read from a table, and the one that applies where there is none, are
read from what is written of them as they are; and the resolved ones are all of which this holds. -/
theorem ofFields_toFields :
    (∀ fields source c, ofFields fields source = .ok c → ofFields c.toFields c.source = .ok c) ∧
    ofFields ({} : Config).toFields ({} : Config).source = .ok {} ∧
    ∀ c : Config, ofFields c.toFields c.source = .ok c ↔ c.IsResolved := by
  refine ⟨?_, ofFields_of_isResolved isResolved_default, ?_⟩
  · intro fields source c h
    exact ofFields_of_isResolved (isResolved_of_ofFields h)
  · intro c
    exact ⟨isResolved_of_ofFields, ofFields_of_isResolved⟩

/-- A table with texts in other letter cases, a number of seconds without a fraction, and a pattern
without a rule id. -/
theorem ofFields_toFields_of_defaults :
    let fields : List (String × Value) := [("format", .text "MARKDOWN"), ("fail_on", .text "Bug"),
      ("log_level", .text "info"), ("detectors", .table [("disable", .list [.text "guidelines"])]),
      ("review", .table [("timeout_seconds", .int 30)]),
      ("patterns", .list [.table [("keyword", .text "FIXME"), ("message", .text "Open task"),
        ("languages", .list [.text "Python"])]])]
    ∃ c, ofFields fields (some "settings.toml") = .ok c ∧
      c.patterns.map (·.languages) = [["python"]] ∧ c.logLevel = "INFO" ∧
      ofFields c.toFields c.source = .ok c := by
  intro fields
  refine ⟨_, rfl, ?_, ?_, ?_⟩
  · rfl
  · rfl
  · exact ofFields_toFields.1 fields (some "settings.toml") _ rfl

end Config
end PatchReview
